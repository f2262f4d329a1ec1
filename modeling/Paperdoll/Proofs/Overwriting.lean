import Paperdoll.Proofs.Chain
import Paperdoll.Proofs.Saturation

/-!
# Overwriting: what the pairs of a table come to

The pairs of a table are read one after the other, and a pair overwrites an earlier one of the same
source. Sources are colors, so it does not matter how they are spelled.

**Theorem (`ofArgs_lastWins`).** Arguments make a table exactly if each of them is empty or has two
colors around its first equals sign. What the table has for a color is the target of the last
argument whose source it is. A pixel takes it and is not looked up again, so two pairs that lead to
each other's sources swap two colors. If the arguments make no table, the first bad one is
reported: whole if it has no equals sign, else by its source, or by its target if the source is a
color.

An argument is taken apart once (`parsePair_eq`), and the loop is read twice: until it fails
(`insertArgs_eq_error`), and backwards from its end for what a color was last sent to
(`get?_insertArgs`).
-/

namespace Paperdoll.Substitution

variable {s t : Substitution} {arg : String} {args : List String} {c d : Color} {e : Error}

/-! ## One argument -/

/-- What stands before the first equals sign. -/
def sourceText (arg : String) : String :=
  String.ofList (arg.toList.takeWhile (· != '='))

def targetText (arg : String) : String :=
  String.ofList ((arg.toList.dropWhile (· != '=')).drop 1)

/-- The argument has an equals sign, and a color on either side of the first one. -/
structure IsPair (arg : String) (source target : Color) : Prop where
  assigns : '=' ∈ arg.toList
  source : Color.parse (sourceText arg) = .ok source
  target : Color.parse (targetText arg) = .ok target

/-- The error blames the argument: as a whole, by its source, or else by its target. -/
inductive Blames (arg : String) : Error → Prop
  | whole (missing : '=' ∉ arg.toList) : Blames arg (.invalidColor arg .noAssignment)
  | source {fault : ColorFault} (assigns : '=' ∈ arg.toList)
      (bad : Color.parse (sourceText arg) = .error (.invalidColor (sourceText arg) fault)) :
      Blames arg (.invalidColor (sourceText arg) fault)
  | target {fault : ColorFault} {c : Color} (assigns : '=' ∈ arg.toList)
      (source : Color.parse (sourceText arg) = .ok c)
      (bad : Color.parse (targetText arg) = .error (.invalidColor (targetText arg) fault)) :
      Blames arg (.invalidColor (targetText arg) fault)

theorem cutOnce_of_mem (h : '=' ∈ arg.toList) :
    Text.cutOnce '=' arg = some (sourceText arg, targetText arg) := by
  cases hcut : Text.cutOnce '=' arg with
  | none => exact absurd h (Text.cutOnce_eq_none.1 hcut)
  | some cut =>
    obtain ⟨before, after⟩ := cut
    rw [sourceText, targetText, Text.takeWhile_of_cutOnce hcut, Text.dropWhile_of_cutOnce hcut,
      List.drop_succ_cons, List.drop_zero, String.ofList_toList, String.ofList_toList]

/-- **An argument, taken apart.** -/
theorem parsePair_eq (arg : String) :
    parsePair arg =
      if '=' ∈ arg.toList then do
        let source ← Color.parse (sourceText arg)
        let target ← Color.parse (targetText arg)
        return (source, target)
      else .error (.invalidColor arg .noAssignment) := by
  unfold parsePair
  by_cases assigns : '=' ∈ arg.toList
  · rw [if_pos assigns, cutOnce_of_mem assigns]
  · rw [if_neg assigns, Text.cutOnce_eq_none.2 assigns]

theorem parsePair_eq_ok : parsePair arg = .ok (c, d) ↔ IsPair arg c d := by
  rw [parsePair_eq]
  by_cases assigns : '=' ∈ arg.toList
  · rw [if_pos assigns]
    simp only [Error.bind_eq_ok]
    constructor
    · rintro ⟨_, source, _, target, h⟩
      cases h
      exact ⟨assigns, source, target⟩
    · intro h
      exact ⟨c, h.source, d, h.target, rfl⟩
  · rw [if_neg assigns]
    constructor
    · intro h
      cases h
    · intro h
      exact absurd h.assigns assigns

theorem parsePair_eq_error : parsePair arg = .error e ↔ Blames arg e := by
  rw [parsePair_eq]
  by_cases assigns : '=' ∈ arg.toList
  · rw [if_pos assigns]
    simp only [Error.bind_eq_error]
    constructor
    · rintro (bad | ⟨c, source, bad | ⟨d, -, h⟩⟩)
      · obtain ⟨fault, rfl⟩ := Color.exists_fault bad
        exact .source assigns bad
      · obtain ⟨fault, rfl⟩ := Color.exists_fault bad
        exact .target assigns source bad
      · cases h
    · intro h
      cases h with
      | whole missing => exact absurd assigns missing
      | source _ bad => exact .inl bad
      | target _ source bad => exact .inr ⟨_, source, .inl bad⟩
  · rw [if_neg assigns]
    constructor
    · intro h
      cases h
      exact .whole assigns
    · intro h
      cases h with
      | whole => rfl
      | source present => exact absurd present assigns
      | target present => exact absurd present assigns

/-! ## The loop -/

def fault? (arg : String) : Option Error :=
  if arg.isEmpty then none
  else
    match parsePair arg with
    | .ok _ => none
    | .error e => some e

def target? (c : Color) (arg : String) : Option Color :=
  match parsePair arg with
  | .ok (source, target) => if source = c then some target else none
  | .error _ => none

theorem fault?_eq_some : fault? arg = some e ↔ arg ≠ "" ∧ Blames arg e := by
  rw [← parsePair_eq_error, ne_eq, ← String.isEmpty_iff]
  unfold fault?
  by_cases empty : arg.isEmpty
  · simp [empty]
  · rw [if_neg empty]
    cases parsePair arg <;> simp [empty]

theorem fault?_eq_none : fault? arg = none ↔ arg = "" ∨ ∃ c d, IsPair arg c d := by
  simp only [← parsePair_eq_ok, ← String.isEmpty_iff]
  unfold fault?
  by_cases empty : arg.isEmpty
  · simp [empty]
  · rw [if_neg empty]
    cases parsePair arg with
    | error e => simp [empty]
    | ok pair => exact iff_of_true rfl (.inr ⟨pair.1, pair.2, rfl⟩)

theorem target?_eq_some : target? c arg = some d ↔ IsPair arg c d := by
  rw [← parsePair_eq_ok]
  unfold target?
  cases parsePair arg with
  | error e => simp
  | ok pair =>
    obtain ⟨source, target⟩ := pair
    simp

/-- **The loop fails with the first refusal.** -/
theorem insertArgs_eq_error : s.insertArgs args = .error e ↔ args.findSome? fault? = some e := by
  induction args generalizing s with
  | nil => simp [insertArgs]
  | cons arg rest ih =>
    rw [List.findSome?_cons]
    unfold insertArgs fault?
    by_cases empty : arg.isEmpty
    · rw [if_pos empty, if_pos empty]
      exact ih
    · rw [if_neg empty, if_neg empty]
      cases parsePair arg with
      | error e' => exact ⟨fun h => by cases h; rfl, fun h => by cases h; rfl⟩
      | ok pair => exact ih

theorem exists_insertArgs_iff :
    (∃ t, s.insertArgs args = .ok t) ↔ ∀ arg ∈ args, arg = "" ∨ ∃ c d, IsPair arg c d := by
  simp only [← fault?_eq_none]
  rw [← List.findSome?_eq_none_iff]
  cases h : s.insertArgs args with
  | error e => simp [insertArgs_eq_error.1 h]
  | ok t =>
    have passed : args.findSome? fault? = none := by
      by_contra refused
      obtain ⟨e, he⟩ := Option.ne_none_iff_exists'.1 refused
      cases h.symm.trans (insertArgs_eq_error.2 he)
    simp [passed]

/-- **What is found after the loop** was sent there last, or is what was found before. -/
theorem get?_insertArgs (h : s.insertArgs args = .ok t) (c : Color) :
    t.get? c = (args.reverse.findSome? (target? c)).or (s.get? c) := by
  induction args generalizing s with
  | nil =>
    cases h
    rfl
  | cons arg rest ih =>
    rw [List.reverse_cons, List.findSome?_append, Option.or_assoc, List.findSome?_singleton]
    unfold insertArgs at h
    unfold target?
    split at h
    next empty =>
      have skipped : parsePair arg = .error (.invalidColor arg .noAssignment) := by
        rw [String.isEmpty_iff.1 empty]
        rfl
      rw [skipped, Option.none_or]
      exact ih h
    next =>
      obtain ⟨⟨source, target⟩, read, run⟩ := Error.bind_eq_ok.1 h
      rw [ih run, read, get?_insert]
      congr 1
      by_cases same : source = c
      · simp only [if_pos same, Option.some_or]
      · simp only [if_neg same, Option.none_or]

/-! ## Tables -/

/-- The argument is not skipped, and what stands before its first equals sign denotes the color. -/
def HasSource (arg : String) (c : Color) : Prop :=
  arg ≠ "" ∧ Color.parse (sourceText arg) = .ok c

instance (arg : String) (c : Color) : Decidable (HasSource arg c) :=
  inferInstanceAs (Decidable (_ ∧ _))

theorem IsPair.hasSource_iff (h : IsPair arg c d) {source : Color} :
    HasSource arg source ↔ c = source := by
  constructor
  · rintro ⟨-, read⟩
    cases h.source.symm.trans read
    rfl
  · rintro rfl
    refine ⟨?_, h.source⟩
    rintro rfl
    cases h.assigns

theorem target?_eq_none (readable : arg = "" ∨ ∃ c d, IsPair arg c d) :
    target? c arg = none ↔ ¬ HasSource arg c := by
  rw [Option.eq_none_iff_forall_not_mem]
  simp only [Option.mem_def, target?_eq_some]
  constructor
  · rintro nothing ⟨counts, source⟩
    obtain ⟨c', d, pair⟩ := readable.resolve_left counts
    cases pair.source.symm.trans source
    exact nothing d pair
  · intro other d pair
    exact other (pair.hasSource_iff.2 rfl)

/-- **The last argument of a source has its say.** -/
theorem get?_ofArgs_eq_some (h : ofArgs args = .ok t) :
    t.get? c = some d ↔ ∃ before arg after, args = before ++ arg :: after ∧ HasSource arg c ∧
      Color.parse (targetText arg) = .ok d ∧ ∀ later ∈ after, ¬ HasSource later c := by
  have readable := exists_insertArgs_iff.1 ⟨t, h⟩
  rw [get?_insertArgs h, get?_empty, Option.or_none, List.findSome?_eq_some_iff]
  constructor
  · rintro ⟨after, arg, before, split, sent, silent⟩
    obtain rfl : args = before.reverse ++ arg :: after.reverse := by
      simpa using congrArg List.reverse split
    have pair := target?_eq_some.1 sent
    refine ⟨before.reverse, arg, after.reverse, rfl, pair.hasSource_iff.2 rfl, pair.target,
      fun later mem => ?_⟩
    rw [← target?_eq_none (readable later (by simp [List.mem_reverse.1 mem]))]
    exact silent later (List.mem_reverse.1 mem)
  · rintro ⟨before, arg, after, rfl, ⟨counts, source⟩, target, silent⟩
    obtain ⟨_, _, pair⟩ := (readable arg (by simp)).resolve_left counts
    refine ⟨after.reverse, arg, before.reverse, by simp,
      target?_eq_some.2 ⟨pair.assigns, source, target⟩, fun later mem => ?_⟩
    have mem := List.mem_reverse.1 mem
    exact (target?_eq_none (readable later (by simp [mem]))).2 (silent later mem)

theorem get?_ofArgs_eq_none (h : ofArgs args = .ok t) :
    t.get? c = none ↔ ∀ arg ∈ args, ¬ HasSource arg c := by
  have readable := exists_insertArgs_iff.1 ⟨t, h⟩
  rw [get?_insertArgs h, get?_empty, Option.or_none, List.findSome?_eq_none_iff]
  simp only [List.mem_reverse]
  exact forall₂_congr fun arg mem => target?_eq_none (readable arg mem)

/-- One look-up is all that becomes of a pixel. -/
theorem applyFront?_table (t : Substitution) (p : Pixel) :
    (Recoloring.table t).applyFront? p.bytes =
      some (match t.get? p.color with
        | some d => Pixel.ofColor d p.alpha
        | none => p).bytes := by
  rw [Recoloring.applyFront?_bytes, Pixel.recolor, Recoloring.apply, apply]
  cases t.get? p.color <;> rfl

/-- What is reported is the first argument to blame. -/
theorem ofArgs_eq_error :
    ofArgs args = .error e ↔ ∃ before arg after, args = before ++ arg :: after ∧
      (∀ earlier ∈ before, earlier = "" ∨ ∃ c d, IsPair earlier c d) ∧ arg ≠ "" ∧
      Blames arg e := by
  rw [ofArgs, insertArgs_eq_error, List.findSome?_eq_some_iff]
  simp only [fault?_eq_none, fault?_eq_some]
  constructor
  · rintro ⟨before, arg, after, split, ⟨counts, blamed⟩, readable⟩
    exact ⟨before, arg, after, split, readable, counts, blamed⟩
  · rintro ⟨before, arg, after, split, readable, counts, blamed⟩
    exact ⟨before, arg, after, split, ⟨counts, blamed⟩, readable⟩

theorem isPair_of_colors {a b : String} (ha : Color.parse a = .ok c) (hb : Color.parse b = .ok d) :
    IsPair (a ++ "=" ++ b) c d := by
  have digits : '=' ∉ a.toList := by
    rcases Color.parse_cases a with ⟨accepted, -⟩ | ⟨-, fault, read⟩
    · exact fun mem => absurd (accepted.digits '=' mem) (by decide)
    · cases ha.symm.trans read
  have cut : Text.cutOnce '=' (a ++ "=" ++ b) = some (a, b) := by
    have list : (a ++ "=" ++ b).toList = a.toList ++ '=' :: b.toList := by simp
    rw [Text.cutOnce, list, Text.cutOnceChars_append digits, Option.map_some, String.ofList_toList,
      String.ofList_toList]
  rw [← parsePair_eq_ok, parsePair, cut]
  simp only [ha, hb]
  rfl

/-- Two pairs that lead to each other's sources swap them. -/
theorem ofArgs_swap {a b : String} (ha : Color.parse a = .ok c) (hb : Color.parse b = .ok d) :
    ∃ t, ofArgs [a ++ "=" ++ b, b ++ "=" ++ a] = .ok t ∧ t.apply c = d ∧ t.apply d = c ∧
      ∀ other, other ≠ c → other ≠ d → t.apply other = other := by
  have there := isPair_of_colors ha hb
  have back := isPair_of_colors hb ha
  obtain ⟨t, h⟩ : ∃ t, ofArgs [a ++ "=" ++ b, b ++ "=" ++ a] = .ok t := by
    refine exists_insertArgs_iff.2 fun arg mem => .inr ?_
    rcases List.mem_pair.1 mem with rfl | rfl
    · exact ⟨c, d, there⟩
    · exact ⟨d, c, back⟩
  -- the later pair is looked up first
  have found : ∀ x, t.get? x = if d = x then some c else if c = x then some d else none := by
    intro x
    rw [get?_insertArgs h, get?_empty, Option.or_none]
    simp only [List.reverse_cons, List.reverse_nil, List.nil_append, List.singleton_append,
      List.findSome?_cons, List.findSome?_nil, target?, parsePair_eq_ok.2 there,
      parsePair_eq_ok.2 back]
    by_cases last : d = x
    · simp only [if_pos last]
    · by_cases first : c = x
      · simp only [if_neg last, if_pos first]
      · simp only [if_neg last, if_neg first]
  refine ⟨t, h, ?_, ?_, fun other hc hd => ?_⟩
  · rw [apply, found, if_pos (rfl : c = c)]
    by_cases same : d = c
    · rw [if_pos same, Option.getD_some, same]
    · rw [if_neg same, Option.getD_some]
  · rw [apply, found, if_pos rfl, Option.getD_some]
  · rw [apply, found, if_neg (Ne.symm hd), if_neg (Ne.symm hc), Option.getD_none]

/-- **A table is what its last pairs say**, at once and not one after the other. -/
theorem ofArgs_lastWins :
    (∀ args, (∃ t, ofArgs args = .ok t) ↔ ∀ arg ∈ args, arg = "" ∨ ∃ c d, IsPair arg c d) ∧
    (∀ args t, ofArgs args = .ok t →
      (∀ c d, t.get? c = some d ↔
        ∃ before arg after, args = before ++ arg :: after ∧ HasSource arg c ∧
          Color.parse (targetText arg) = .ok d ∧ ∀ later ∈ after, ¬ HasSource later c) ∧
      (∀ c, t.get? c = none ↔ ∀ arg ∈ args, ¬ HasSource arg c) ∧
      ∀ p : Pixel, (Recoloring.table t).applyFront? p.bytes =
        some (match t.get? p.color with
          | some d => Pixel.ofColor d p.alpha
          | none => p).bytes) ∧
    (∀ a b c d, Color.parse a = .ok c → Color.parse b = .ok d →
      ∃ t, ofArgs [a ++ "=" ++ b, b ++ "=" ++ a] = .ok t ∧ t.apply c = d ∧ t.apply d = c ∧
        ∀ other, other ≠ c → other ≠ d → t.apply other = other) ∧
    ∀ args e, ofArgs args = .error e ↔
      ∃ before arg after, args = before ++ arg :: after ∧
        (∀ earlier ∈ before, earlier = "" ∨ ∃ c d, IsPair earlier c d) ∧ arg ≠ "" ∧
        Blames arg e := by
  refine ⟨fun args => exists_insertArgs_iff, fun args t h => ?_, fun a b c d => ofArgs_swap,
    fun args e => ofArgs_eq_error⟩
  exact ⟨fun c d => get?_ofArgs_eq_some h, fun c => get?_ofArgs_eq_none h, applyFront?_table t⟩

/-- Two spellings of one source, and nothing behind the last semicolon. -/
def doubleArgs : List String := ["aabbcc=112233", "0aa0bb0cc=445566", ""]

/-- A table up to the third argument, which has a second equals sign. -/
def brokenArgs : List String := ["", "abc=def", "abc=de=f", "abc"]

theorem ofArgs_lastWins_doubleArgs :
    ∃ t, ofArgs doubleArgs = .ok t ∧ t.get? ⟨0xaa, 0xbb, 0xcc⟩ = some ⟨0x44, 0x55, 0x66⟩ ∧
      t.get? ⟨0x44, 0x55, 0x66⟩ = none ∧
      (Recoloring.table t).applyFront? [0xaa, 0xbb, 0xcc, 7] = some [0x44, 0x55, 0x66, 7] ∧
      ofArgs brokenArgs = .error (.invalidColor "de=f" .notHexadecimal) ∧
      ∃ swap, ofArgs ["f0f" ++ "=" ++ "000000", "000000" ++ "=" ++ "f0f"] = .ok swap ∧
        swap.apply ⟨15, 0, 15⟩ = ⟨0, 0, 0⟩ ∧ swap.apply ⟨0, 0, 0⟩ = ⟨15, 0, 15⟩ := by
  obtain ⟨readable, found, swaps, refused⟩ := ofArgs_lastWins
  have early : IsPair "aabbcc=112233" ⟨0xaa, 0xbb, 0xcc⟩ ⟨0x11, 0x22, 0x33⟩ :=
    ⟨by decide +kernel, by decide +kernel, by decide +kernel⟩
  have late : IsPair "0aa0bb0cc=445566" ⟨0xaa, 0xbb, 0xcc⟩ ⟨0x44, 0x55, 0x66⟩ :=
    ⟨by decide +kernel, by decide +kernel, by decide +kernel⟩
  obtain ⟨t, h⟩ := (readable doubleArgs).2 fun arg mem => by
    simp only [doubleArgs, List.mem_cons, List.not_mem_nil, or_false] at mem
    rcases mem with rfl | rfl | rfl
    · exact .inr ⟨_, _, early⟩
    · exact .inr ⟨_, _, late⟩
    · exact .inl rfl
  obtain ⟨hit, miss, pixel⟩ := found doubleArgs t h
  have sent : t.get? ⟨0xaa, 0xbb, 0xcc⟩ = some ⟨0x44, 0x55, 0x66⟩ :=
    (hit _ _).2 ⟨["aabbcc=112233"], "0aa0bb0cc=445566", [""], rfl, late.hasSource_iff.2 rfl,
      late.target, by decide +kernel⟩
  have blamed : Blames "abc=de=f" (.invalidColor "de=f" .notHexadecimal) :=
    .target (c := ⟨10, 11, 12⟩) (by decide +kernel) (by decide +kernel) (by decide +kernel)
  refine ⟨t, h, sent, (miss _).2 (by decide +kernel), ?_, ?_, ?_⟩
  · have := pixel ⟨0xaa, 0xbb, 0xcc, 7⟩
    rwa [Pixel.color, sent] at this
  · refine (refused _ _).2 ⟨["", "abc=def"], "abc=de=f", ["abc"], rfl, fun earlier mem => ?_,
      by decide, blamed⟩
    rcases List.mem_pair.1 mem with rfl | rfl
    · exact .inl rfl
    · exact .inr ⟨⟨10, 11, 12⟩, ⟨13, 14, 15⟩, by decide +kernel, by decide +kernel, by decide +kernel⟩
  · obtain ⟨swap, hswap, there, back, -⟩ := swaps "f0f" "000000" ⟨15, 0, 15⟩ ⟨0, 0, 0⟩
      (by decide +kernel) (by decide +kernel)
    exact ⟨swap, hswap, there, back⟩

end Paperdoll.Substitution
