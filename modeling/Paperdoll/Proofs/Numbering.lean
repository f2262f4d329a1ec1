import Paperdoll.Proofs.Canonical
import Paperdoll.Proofs.Chain

/-!
# Numbering: where the reading of directives stops

Segments are numbered from zero on, empty ones left out, and reading stops at the first segment
without a command.

**Theorem (`parseAll_join`).** Two texts with a question mark in between are read as one text: if
both can be read, the directives of the first are followed by those of the second; if only the first
can, the error is that of the second, with its segment counted on behind the directives of the
first; and if the first cannot be read, neither can the whole, for the same reason. A text cannot be
read exactly if the command of one of its segments is blank, and then the error names the first such
segment and the number of segments before it.

A segment is refused by a look at what stands before its first semicolon and, in that, before the
first equals sign (`parseSegment_eq_error`); its number is only reported, so numbers may be counted
from anywhere (`parseSegments_add`). The rest is one induction over the segments
(`parseSegments_eq_error`).
-/

namespace Paperdoll

namespace Text

variable {separator : Char} {s : String} {cs : List Char}

/-! ## Up to a separator -/

theorem head?_splitOnP (p : Char → Bool) (cs : List Char) :
    (cs.splitOnP p).head? = some (cs.takeWhile fun c => !p c) := by
  induction cs with
  | nil => rfl
  | cons c cs ih =>
    rw [List.splitOnP_cons_eq_if_modifyHead, List.takeWhile_cons]
    by_cases separates : p c
    · simp [separates]
    · simp [separates, List.head?_modifyHead, ih]

theorem head?_pieces (separator : Char) (s : String) :
    (pieces separator s).head? =
      some (String.ofList (s.toList.takeWhile fun c => c != separator)) := by
  rw [pieces, List.head?_map, List.splitOn_eq_splitOnP, head?_splitOnP]
  rfl

theorem takeWhile_of_cutOnce_eq_none (h : cutOnce separator s = none) :
    s.toList.takeWhile (· != separator) = s.toList := by
  rw [cutOnce_eq_none] at h
  exact List.takeWhile_eq_self_iff.2 fun c mem => by
    simpa using fun same : c = separator => h (same ▸ mem)

theorem trimChars_eq_nil : trimChars cs = [] ↔ ∀ c ∈ cs, isBlank c := by
  have all : cs.dropWhile isBlank = [] ↔ ∀ c ∈ cs, isBlank c := List.dropWhile_eq_nil_iff
  have first := List.head?_dropWhile_not isBlank cs
  rw [trimChars_eq, List.rdropWhile_eq_nil_iff, ← all]
  cases hdrop : cs.dropWhile isBlank with
  | nil => simp
  | cons c rest =>
    -- the first character that is kept is not blank
    rw [hdrop] at first
    simp only [List.head?_cons] at first
    simp [first]

theorem isEmpty_trim : (trim s).isEmpty ↔ ∀ c ∈ s.toList, isBlank c := by
  rw [String.isEmpty_iff, ← String.toList_inj, toList_trim]
  exact trimChars_eq_nil

end Text

namespace Error

/-- The error of a segment, with the segment counted on behind `n` others. -/
def later (n : Nat) : Error → Error
  | .malformedDirective index segment => .malformedDirective (n + index) segment
  | e => e

end Error

namespace Directive

variable {ds es : List Directive} {index : Nat} {segment : String} {segs : List String} {e : Error}

/-! ## One segment -/

/-- What stands before the first semicolon of a segment and, in that, before the first equals
sign. -/
def commandToken (segment : String) : List Char :=
  (segment.toList.takeWhile (· != ';')).takeWhile (· != '=')

/-- The segment has blanks for a command, or nothing. -/
def Commandless (segment : String) : Prop :=
  ∀ c ∈ commandToken segment, Text.isBlank c

/-- The last step of reading a segment, whichever form it has. -/
theorem finish_eq_error (front : String) (args : List String) (refusal : Error) :
    (if (Text.trim front).isEmpty then .error refusal else .ok ⟨Text.trim front, args⟩) =
        Except.error (α := Directive) e ↔
      (∀ c ∈ front.toList, Text.isBlank c) ∧ e = refusal := by
  rw [← Text.isEmpty_trim]
  by_cases blank : (Text.trim front).isEmpty
  · rw [if_pos blank, Except.error.injEq, eq_comm]
    simp [blank]
  · rw [if_neg blank]
    simp [blank]

/-- **When a segment is refused.** -/
theorem parseSegment_eq_error :
    parseSegment index segment = .error e ↔
      Commandless segment ∧ e = .malformedDirective index segment := by
  have front := Text.head?_pieces ';' segment
  unfold parseSegment Commandless commandToken
  cases hpieces : Text.pieces ';' segment with
  | nil =>
    rw [hpieces] at front
    cases front
  | cons head rest =>
    rw [hpieces, List.head?_cons, Option.some.injEq] at front
    have token : segment.toList.takeWhile (· != ';') = head.toList := by
      rw [front, String.toList_ofList]
    rw [token]
    dsimp only
    cases hcut : Text.cutOnce '=' head with
    | none =>
      rw [Text.takeWhile_of_cutOnce_eq_none hcut]
      exact finish_eq_error head rest _
    | some cut =>
      rw [Text.takeWhile_of_cutOnce hcut]
      exact finish_eq_error cut.1 (cut.2 :: rest) _

theorem parseSegment_of_command (h : ¬ Commandless segment) (index : Nat) :
    ∃ d, parseSegment index segment = .ok d := by
  cases read : parseSegment index segment with
  | ok d => exact ⟨d, rfl⟩
  | error e => exact absurd (parseSegment_eq_error.1 read).1 h

/-! ## All segments -/

instance : DecidablePred Commandless := fun segment =>
  inferInstanceAs (Decidable (∀ c ∈ commandToken segment, Text.isBlank c))

theorem commandless_cases (segs : List String) :
    (∀ segment ∈ segs, ¬ Commandless segment) ∨
      ∃ before segment after, segs = before ++ segment :: after ∧
        (∀ earlier ∈ before, ¬ Commandless earlier) ∧ Commandless segment := by
  cases first : segs.find? (fun segment => decide (Commandless segment)) with
  | none => exact .inl fun segment mem => by simpa using List.find?_eq_none.1 first segment mem
  | some segment =>
    obtain ⟨blank, before, after, split, commands⟩ := List.find?_eq_some_iff_append.1 first
    refine .inr ⟨before, segment, after, split, fun earlier mem => ?_, by simpa using blank⟩
    simpa using commands earlier mem

/-- Segments with commands are read, each as one directive. -/
theorem parseSegments_of_commands (h : ∀ segment ∈ segs, ¬ Commandless segment) (index : Nat) :
    ∃ ds, parseSegments index segs = .ok ds ∧ ds.length = segs.length := by
  induction segs generalizing index with
  | nil => exact ⟨[], rfl, rfl⟩
  | cons segment rest ih =>
    obtain ⟨command, commands⟩ := List.forall_mem_cons.1 h
    obtain ⟨d, hd⟩ := parseSegment_of_command command index
    obtain ⟨ds, hds, length⟩ := ih commands (index + 1)
    refine ⟨d :: ds, ?_, congrArg (· + 1) length⟩
    rw [parseSegments, hd, hds]
    rfl

theorem parseSegments_of_commandless {before : List String}
    (commands : ∀ earlier ∈ before, ¬ Commandless earlier) (blank : Commandless segment)
    (after : List String) (index : Nat) :
    parseSegments index (before ++ segment :: after) =
      .error (.malformedDirective (index + before.length) segment) := by
  obtain ⟨ds, hds, -⟩ := parseSegments_of_commands commands index
  rw [parseSegments_append, hds, parseSegments, parseSegment_eq_error.2 ⟨blank, rfl⟩]
  rfl

theorem parseSegments_eq_error :
    parseSegments index segs = .error e ↔
      ∃ before segment after, segs = before ++ segment :: after ∧
        (∀ earlier ∈ before, ¬ Commandless earlier) ∧ Commandless segment ∧
        e = .malformedDirective (index + before.length) segment := by
  constructor
  · intro h
    rcases commandless_cases segs with commands | ⟨before, segment, after, rfl, commands, blank⟩
    · obtain ⟨ds, hds, -⟩ := parseSegments_of_commands commands index
      cases hds.symm.trans h
    · rw [parseSegments_of_commandless commands blank] at h
      cases h
      exact ⟨before, segment, after, rfl, commands, blank, rfl⟩
  · rintro ⟨before, segment, after, rfl, commands, blank, rfl⟩
    exact parseSegments_of_commandless commands blank after index

theorem length_of_parseSegments (h : parseSegments index segs = .ok ds) :
    ds.length = segs.length := by
  rcases commandless_cases segs with commands | ⟨before, segment, after, rfl, commands, blank⟩
  · obtain ⟨ds', hds', length⟩ := parseSegments_of_commands commands index
    cases hds'.symm.trans h
    exact length
  · rw [parseSegments_of_commandless commands blank] at h
    cases h

/-- **Numbers may be counted from anywhere.** -/
theorem parseSegments_add (n index : Nat) (segs : List String) :
    parseSegments (n + index) segs = (parseSegments index segs).mapError (Error.later n) := by
  rcases commandless_cases segs with commands | ⟨before, segment, after, rfl, commands, blank⟩
  · obtain ⟨ds, hds, -⟩ := parseSegments_of_commands commands index
    rw [hds, parseSegments_eq_ok_iff.1 hds]
    rfl
  · rw [parseSegments_of_commandless commands blank, parseSegments_of_commandless commands blank,
      Nat.add_assoc]
    rfl

/-! ## Texts put together -/

/-- **Two texts are read one after the other**, the segments of the second counted on. -/
theorem parseAll_append (s t : String) :
    parseAll (s ++ "?" ++ t) = do
      let ds ← parseAll s
      let es ← (parseAll t).mapError (Error.later ds.length)
      return ds ++ es := by
  unfold parseAll
  rw [segments_append, parseSegments_append]
  cases h : parseSegments 0 (segments s) with
  | error e => rfl
  | ok ds =>
    have counted : parseSegments (0 + (segments s).length) (segments t) =
        (parseSegments 0 (segments t)).mapError (Error.later ds.length) := by
      rw [length_of_parseSegments h, ← parseSegments_add, Nat.zero_add, Nat.add_zero]
    rw [counted]
    rfl

theorem exists_parseAll_error {t : String} :
    (∃ e, parseAll t = .error e) ↔ ∃ segment ∈ segments t, Commandless segment := by
  constructor
  · rintro ⟨e, h⟩
    obtain ⟨before, segment, after, split, -, blank, -⟩ := parseSegments_eq_error.1 h
    exact ⟨segment, by simp [split], blank⟩
  · rintro ⟨segment, mem, blank⟩
    rcases commandless_cases (segments t) with commands | ⟨before, segment, after, split, first⟩
    · exact absurd blank (commands segment mem)
    · exact ⟨_, parseSegments_eq_error.2 ⟨before, segment, after, split, first.1, first.2, rfl⟩⟩

/-- **Reading is compositional, errors included.** -/
theorem parseAll_join :
    (∀ s t ds es, parseAll s = .ok ds → parseAll t = .ok es →
      parseAll (s ++ "?" ++ t) = .ok (ds ++ es)) ∧
    (∀ s t ds index segment, parseAll s = .ok ds →
      parseAll t = .error (.malformedDirective index segment) →
      parseAll (s ++ "?" ++ t) = .error (.malformedDirective (ds.length + index) segment)) ∧
    (∀ s t e, parseAll s = .error e → parseAll (s ++ "?" ++ t) = .error e) ∧
    (∀ t, (∃ e, parseAll t = .error e) ↔ ∃ segment ∈ segments t, Commandless segment) ∧
    ∀ t e, parseAll t = .error e ↔
      ∃ before segment after, segments t = before ++ segment :: after ∧
        (∀ earlier ∈ before, ¬ Commandless earlier) ∧ Commandless segment ∧
        e = .malformedDirective before.length segment := by
  refine ⟨fun s t ds es hs ht => ?_, fun s t ds index segment hs ht => ?_, fun s t e hs => ?_,
    fun t => exists_parseAll_error, fun t e => ?_⟩
  · rw [parseAll_append, hs, ht]
    rfl
  · rw [parseAll_append, hs, ht]
    rfl
  · rw [parseAll_append, hs]
    rfl
  · rw [parseAll, parseSegments_eq_error]
    simp only [Nat.zero_add]

/-- Two directives, between and behind them nothing that counts. -/
def readableText : String := "??replace;a=b???flipx?"

/-- The second segment has blanks for a command, the third nothing. -/
def blankText : String := "fade=1??\u2003=x;y?;z"

theorem parseAll_join_blankText :
    ∃ ds, parseAll readableText = .ok ds ∧ ds.length = 2 ∧
      parseAll blankText = .error (.malformedDirective 1 "\u2003=x;y") ∧
      parseAll (readableText ++ "?" ++ readableText) = .ok (ds ++ ds) ∧
      parseAll (readableText ++ "?" ++ blankText) =
        .error (.malformedDirective 3 "\u2003=x;y") ∧
      parseAll (blankText ++ "?" ++ readableText) =
        .error (.malformedDirective 1 "\u2003=x;y") := by
  have read : parseAll readableText = .ok [⟨"replace", ["a=b"]⟩, ⟨"flipx", []⟩] := by
    decide +kernel
  have stopped : parseAll blankText = .error (.malformedDirective 1 "\u2003=x;y") := by
    decide +kernel
  obtain ⟨both, second, first, -, -⟩ := parseAll_join
  exact ⟨_, read, rfl, stopped, both _ _ _ _ read read, second _ _ _ _ _ read stopped,
    first _ _ _ stopped⟩

end Directive

end Paperdoll
