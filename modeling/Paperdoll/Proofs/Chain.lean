import Mathlib.Data.List.Basic
import Paperdoll.Pixel

/-!
# Chains: directive texts one after the other

A directive text denotes a **chain**, the substitutions of its `replace` directives in the order
in which they are written. The recoloring that is built from a text is a tree, and trees do not
compose well: put together from two texts, it hangs together differently than the trees of the
two. Chains do: the chain of two texts with a question mark in between is the one followed by the
other.

**Theorem (`parse_append`).** A text put together from two can be read exactly if both can. It
does to the pixels what the second text does and then what the first one does; its depth is the
sum of the depths, and its tables are those of the first text followed by those of the second. The
recoloring of a list of directives runs their substitutions from the last to the first, and
nothing else.

The text falls apart at the question mark (`segments_append`), and whether a segment can be read
does not depend on its number, so reading takes texts put together to chains put together
(`chain_append_eq_ok`). A recoloring is a function of the chain (`parse_eq_ok`), and `apply`,
`tables` and `depth` take it back to the chain; only there the smart constructors are opened.
-/

namespace Paperdoll

namespace Directive

variable {ds : List Directive}

/-! ## Texts put together -/

theorem segments_append (s t : String) : segments (s ++ "?" ++ t) = segments s ++ segments t := by
  have joined : (s ++ "?" ++ t).toList = s.toList ++ '?' :: t.toList := by
    rw [String.toList_append, String.toList_append, List.append_assoc]
    rfl
  unfold segments Text.pieces
  rw [joined, List.splitOn_append_cons_self, List.map_append, List.filter_append]

theorem parseSegments_append (index : Nat) (xs ys : List String) :
    parseSegments index (xs ++ ys) = do
      let ds ← parseSegments index xs
      let es ← parseSegments (index + xs.length) ys
      return ds ++ es := by
  induction xs generalizing index with
  | nil => exact (bind_pure (parseSegments index ys)).symm
  | cons x xs ih =>
    have number : index + 1 + xs.length = index + (x :: xs).length := by
      rw [List.length_cons]
      omega
    simp only [List.cons_append, parseSegments, ih, number, bind_assoc, pure_bind]

/-- The last step of reading a segment, with the number only in the error. -/
theorem finish_cases (command : String) (args : List String) (segment : String) :
    (∃ d, ∀ index, (if command.isEmpty then .error (.malformedDirective index segment)
        else .ok ⟨command, args⟩ : Except Error Directive) = .ok d) ∨
      ∀ index, (if command.isEmpty then .error (.malformedDirective index segment)
        else .ok ⟨command, args⟩ : Except Error Directive) =
          .error (.malformedDirective index segment) := by
  by_cases blank : command.isEmpty
  · exact .inr fun index => if_pos blank
  · exact .inl ⟨⟨command, args⟩, fun index => if_neg blank⟩

/-- **What reading a segment can do.** Its number shows only in the error. -/
theorem parseSegment_cases (segment : String) :
    (∃ d, ∀ index, parseSegment index segment = .ok d) ∨
      ∀ index, parseSegment index segment = .error (.malformedDirective index segment) := by
  unfold parseSegment
  cases Text.pieces ';' segment with
  | nil => exact .inr fun index => rfl
  | cons head rest =>
    cases Text.cutOnce '=' head with
    | none => exact finish_cases _ _ segment
    | some cut => exact finish_cases _ _ segment

theorem parseSegment_eq_ok_iff {index other : Nat} {segment : String} {d : Directive} :
    parseSegment index segment = .ok d ↔ parseSegment other segment = .ok d := by
  rcases parseSegment_cases segment with ⟨_, read⟩ | refused
  · rw [read, read]
  · rw [refused, refused]
    constructor <;> intro h <;> cases h

theorem parseSegments_eq_ok_iff {index other : Nat} {segments : List String} :
    parseSegments index segments = .ok ds ↔ parseSegments other segments = .ok ds := by
  induction segments generalizing index other ds with
  | nil => rfl
  | cons segment rest ih =>
    simp only [parseSegments, Error.bind_eq_ok]
    exact exists_congr fun d => and_congr parseSegment_eq_ok_iff
      (exists_congr fun others => and_congr_left' ih)

theorem parseAll_append_eq_ok {s t : String} :
    parseAll (s ++ "?" ++ t) = .ok ds ↔
      ∃ front back, parseAll s = .ok front ∧ parseAll t = .ok back ∧ ds = front ++ back := by
  unfold parseAll
  rw [segments_append, parseSegments_append]
  simp only [Error.bind_eq_ok]
  constructor
  · rintro ⟨front, hfront, back, hback, heq⟩
    cases heq
    exact ⟨front, back, hfront, parseSegments_eq_ok_iff.1 hback, rfl⟩
  · rintro ⟨front, back, hfront, hback, rfl⟩
    exact ⟨front, hfront, back, parseSegments_eq_ok_iff.1 hback, rfl⟩

end Directive

namespace Recoloring

/-! ## What the constructors do -/

theorem tables_after (outer inner : Recoloring) :
    (after outer inner).tables = outer.tables ++ inner.tables := by
  unfold tables
  rw [leaves, List.filterMap_append]

theorem tables_compose (outer inner : Recoloring) :
    (outer.compose inner).tables = outer.tables ++ inner.tables := by
  fun_cases compose outer inner with
  | case1 => rfl
  | case2 => exact (List.append_nil outer.tables).symm
  | case3 => exact tables_after outer inner

theorem tables_replace (s : Substitution) :
    (replace s).tables = [s].filter fun s => !s.isEmpty := by
  unfold replace
  by_cases empty : s.isEmpty
  · rw [if_pos empty, List.filter_cons_of_neg (by simp [empty])]
    rfl
  · rw [if_neg empty, List.filter_cons_of_pos (by simp [empty])]
    rfl

theorem depth_eq_length_tables (m : Recoloring) : m.depth = m.tables.length := by
  induction m with
  | same => rfl
  | table s => rfl
  | after outer inner outerDepth innerDepth =>
    rw [tables_after, List.length_append, ← outerDepth, ← innerDepth, depth]

theorem apply_compose (outer inner : Recoloring) (c : Color) :
    (outer.compose inner).apply c = outer.apply (inner.apply c) := by
  fun_cases compose outer inner with
  | case1 => rfl
  | case2 => rfl
  | case3 => rfl

theorem apply_replace (s : Substitution) (c : Color) : (replace s).apply c = s.apply c := by
  unfold replace
  by_cases empty : s.isEmpty
  · have none : s.get? c = none := Std.TreeMap.getElem?_of_isEmpty empty
    rw [if_pos empty, apply, Substitution.apply, none, Option.getD_none]
  · rw [if_neg empty, apply]

/-- A recoloring runs its tables from the last to the first. -/
theorem apply_eq_foldr_tables (m : Recoloring) (c : Color) :
    m.apply c = m.tables.foldr Substitution.apply c := by
  induction m generalizing c with
  | same => rfl
  | table s => rfl
  | after outer inner outerRun innerRun =>
    rw [apply, tables_after, List.foldr_append, ← innerRun, ← outerRun]

/-! ## Chains -/

def substitutions (ds : List Directive) : Except Error (List Substitution) :=
  (ds.filter Directive.isReplace).mapM fun d => Substitution.ofArgs d.args

/-- The substitutions that a directive text denotes, in order. -/
def chain (text : String) : Except Error (List Substitution) := do
  let ds ← Directive.parseAll text
  substitutions ds

def addChain (m : Recoloring) (ss : List Substitution) : Recoloring :=
  ss.foldl (fun m s => m.compose (replace s)) m

theorem substitutions_append (ds es : List Directive) :
    substitutions (ds ++ es) = do
      let front ← substitutions ds
      let back ← substitutions es
      return front ++ back := by
  unfold substitutions
  rw [List.filter_append, List.mapM_append]

/-- **Texts put together denote chains put together.** -/
theorem chain_append_eq_ok {s t : String} {ss : List Substitution} :
    chain (s ++ "?" ++ t) = .ok ss ↔
      ∃ front back, chain s = .ok front ∧ chain t = .ok back ∧ ss = front ++ back := by
  simp only [chain, Error.bind_eq_ok, Directive.parseAll_append_eq_ok]
  constructor
  · rintro ⟨_, ⟨ds, es, hds, hes, rfl⟩, h⟩
    simp only [substitutions_append, Error.bind_eq_ok] at h
    obtain ⟨front, hfront, back, hback, heq⟩ := h
    cases heq
    exact ⟨front, back, ⟨ds, hds, hfront⟩, ⟨es, hes, hback⟩, rfl⟩
  · rintro ⟨front, back, ⟨ds, hds, hfront⟩, ⟨es, hes, hback⟩, rfl⟩
    refine ⟨ds ++ es, ⟨ds, es, hds, hes, rfl⟩, ?_⟩
    rw [substitutions_append, hfront, hback]
    rfl

/-- Building goes over the chain, with no regard to the other directives. -/
theorem addDirectives_eq (m : Recoloring) (ds : List Directive) :
    m.addDirectives ds = (substitutions ds).map m.addChain := by
  induction ds generalizing m with
  | nil => rfl
  | cons d ds ih =>
    unfold addDirectives substitutions
    by_cases recolors : d.isReplace
    · rw [if_pos recolors, List.filter_cons_of_pos recolors, List.mapM_cons]
      cases Substitution.ofArgs d.args with
      | error e => rfl
      | ok s =>
        show (m.compose (replace s)).addDirectives ds = _
        rw [ih]
        unfold substitutions
        cases (ds.filter Directive.isReplace).mapM fun d => Substitution.ofArgs d.args <;> rfl
    · rw [if_neg recolors, List.filter_cons_of_neg recolors, ih]
      rfl

theorem ofDirectives_eq_ok {ds : List Directive} {m : Recoloring} :
    ofDirectives ds = .ok m ↔ ∃ ss, substitutions ds = .ok ss ∧ m = same.addChain ss := by
  rw [ofDirectives, addDirectives_eq]
  cases substitutions ds with
  | error e => simp [Except.map]
  | ok ss => simp [Except.map, eq_comm]

/-- **A recoloring is a function of the chain.** -/
theorem parse_eq_ok {text : String} {m : Recoloring} :
    parse text = .ok m ↔ ∃ ss, chain text = .ok ss ∧ m = same.addChain ss := by
  simp only [parse, chain, Error.bind_eq_ok, ofDirectives_eq_ok]
  constructor
  · rintro ⟨ds, hds, ss, hss, rfl⟩
    exact ⟨ss, ⟨ds, hds, hss⟩, rfl⟩
  · rintro ⟨ss, ⟨ds, hds, hss⟩, rfl⟩
    exact ⟨ds, hds, ss, hss, rfl⟩

theorem apply_addChain (m : Recoloring) (ss : List Substitution) (c : Color) :
    (m.addChain ss).apply c = m.apply (ss.foldr Substitution.apply c) := by
  induction ss generalizing m with
  | nil => rfl
  | cons s ss ih =>
    show ((m.compose (replace s)).addChain ss).apply c = _
    rw [ih, apply_compose, apply_replace, List.foldr_cons]

theorem tables_addChain (m : Recoloring) (ss : List Substitution) :
    (m.addChain ss).tables = m.tables ++ ss.filter fun s => !s.isEmpty := by
  induction ss generalizing m with
  | nil => exact (List.append_nil m.tables).symm
  | cons s ss ih =>
    show ((m.compose (replace s)).addChain ss).tables = _
    rw [ih, tables_compose, tables_replace, List.append_assoc, ← List.filter_append,
      List.singleton_append]

theorem tables_addChain_append (front back : List Substitution) :
    (same.addChain (front ++ back)).tables =
      (same.addChain front).tables ++ (same.addChain back).tables := by
  simp only [tables_addChain, List.filter_append]
  rfl

theorem apply_addChain_append (front back : List Substitution) (c : Color) :
    (same.addChain (front ++ back)).apply c =
      (same.addChain front).apply ((same.addChain back).apply c) := by
  simp only [apply_addChain, List.foldr_append, apply]

/-! ## Pixels -/

theorem applyPixels_applyPixels {m outer inner : Recoloring}
    (h : ∀ c, m.apply c = outer.apply (inner.apply c)) :
    ∀ bytes, m.applyPixels bytes = outer.applyPixels (inner.applyPixels bytes)
  | [] | [_] | [_, _] | [_, _, _] => rfl
  | red :: green :: blue :: alpha :: rest => by
    simp only [applyPixels, applyPixels_applyPixels h rest, h]

theorem applyFront?_bytes (m : Recoloring) (p : Pixel) :
    m.applyFront? p.bytes = some (p.recolor m).bytes := by
  unfold applyFront?
  by_cases bare : m.depth = 0
  · have none : m.tables = [] := List.length_eq_zero_iff.1 (m.depth_eq_length_tables ▸ bare)
    have stays : m.apply p.color = p.color := by rw [apply_eq_foldr_tables, none, List.foldr_nil]
    rw [if_pos bare, Pixel.recolor, stays]
    rfl
  · rw [if_neg bare]
    rfl

/-- **Texts put together act one after the other**, the second one first; and the recoloring of a
list of directives is what their substitutions do, from the last to the first. -/
theorem parse_append :
    (∀ s t, (∃ m, parse (s ++ "?" ++ t) = .ok m) ↔
      (∃ m, parse s = .ok m) ∧ ∃ m, parse t = .ok m) ∧
    (∀ s t m outer inner, parse (s ++ "?" ++ t) = .ok m → parse s = .ok outer →
      parse t = .ok inner →
        (∀ bytes, m.applyBuffer bytes = outer.applyBuffer (inner.applyBuffer bytes)) ∧
        m.depth = outer.depth + inner.depth ∧ m.tables = outer.tables ++ inner.tables) ∧
    ∀ ds m, ofDirectives ds = .ok m → ∃ ss, substitutions ds = .ok ss ∧
      (m.tables = ss.filter fun s => !s.isEmpty) ∧
      ∀ p : Pixel, m.applyFront? p.bytes =
        some (Pixel.ofColor (ss.foldr (fun s c => (s.get? c).getD c) p.color) p.alpha).bytes := by
  refine ⟨fun s t => ?_, fun s t m outer inner hm houter hinner => ?_, fun ds m h => ?_⟩
  · simp only [parse_eq_ok, chain_append_eq_ok]
    constructor
    · rintro ⟨_, _, ⟨front, back, hfront, hback, -⟩, -⟩
      exact ⟨⟨_, front, hfront, rfl⟩, _, back, hback, rfl⟩
    · rintro ⟨⟨_, front, hfront, -⟩, _, back, hback, -⟩
      exact ⟨_, _, ⟨front, back, hfront, hback, rfl⟩, rfl⟩
  · -- both texts denote chains, and the chain of the whole is one after the other
    obtain ⟨_, hchain, rfl⟩ := parse_eq_ok.1 hm
    obtain ⟨front, back, hfront, hback, rfl⟩ := chain_append_eq_ok.1 hchain
    obtain ⟨_, hfront', rfl⟩ := parse_eq_ok.1 houter
    obtain ⟨_, hback', rfl⟩ := parse_eq_ok.1 hinner
    cases hfront.symm.trans hfront'
    cases hback.symm.trans hback'
    have tables := tables_addChain_append front back
    refine ⟨fun bytes => ?_, ?_, tables⟩
    · simp only [applyBuffer_eq]
      exact applyPixels_applyPixels (apply_addChain_append front back) bytes
    · simp only [depth_eq_length_tables, tables, List.length_append]
  · obtain ⟨ss, hss, rfl⟩ := ofDirectives_eq_ok.1 h
    refine ⟨ss, hss, tables_addChain same ss, fun p => ?_⟩
    rw [applyFront?_bytes, Pixel.recolor, apply_addChain]
    rfl

/-- Two tables and a command that does nothing; the second table has two pairs of one source. -/
def skinText : String := "?replace;aabbcc=112233?flipx?replace=102030=aabbcc;102030=445566"

/-- A table that feeds the ones of `skinText`, and an empty one. -/
def furText : String := "??replace;ffffff=102030;?replace"

def furDirectives : List Directive := [⟨"replace", ["ffffff=102030", ""]⟩, ⟨"replace", []⟩]

def whiteBytes : List UInt8 := [255, 255, 255, 7, 1]

theorem parse_append_skinText_furText :
    ∃ m outer inner ss, parse (skinText ++ "?" ++ furText) = .ok m ∧
      parse skinText = .ok outer ∧ parse furText = .ok inner ∧
      inner.applyBuffer whiteBytes = [0x10, 0x20, 0x30, 7, 1] ∧
      outer.applyBuffer [0x10, 0x20, 0x30, 7, 1] = [0x44, 0x55, 0x66, 7, 1] ∧
      m.applyBuffer whiteBytes = [0x44, 0x55, 0x66, 7, 1] ∧
      m.depth = 2 + 1 ∧ m.tables = outer.tables ++ inner.tables ∧
      ofDirectives furDirectives = .ok inner ∧ substitutions furDirectives = .ok ss ∧
      ss.foldr (fun s c => (s.get? c).getD c) ⟨255, 255, 255⟩ = ⟨0x10, 0x20, 0x30⟩ := by
  have run :
      ((parse skinText).toOption.map fun m =>
          (m.depth, m.applyBuffer [0x10, 0x20, 0x30, 7, 1])) =
        some (2, [0x44, 0x55, 0x66, 7, 1]) ∧
      ((parse furText).toOption.map fun m =>
          (m.depth, m.applyBuffer whiteBytes, m.applyFront? [255, 255, 255, 7])) =
        some (1, [0x10, 0x20, 0x30, 7, 1], some [0x10, 0x20, 0x30, 7]) := by
    decide +kernel
  have read : Directive.parseAll furText = .ok furDirectives := by decide +kernel
  obtain ⟨outer, houter, outer_run⟩ := Option.map_eq_some_iff.1 run.1
  obtain ⟨inner, hinner, inner_run⟩ := Option.map_eq_some_iff.1 run.2
  replace houter := Error.eq_ok_of_toOption houter
  replace hinner := Error.eq_ok_of_toOption hinner
  simp only [Prod.mk.injEq] at outer_run inner_run
  obtain ⟨readable, acts, runs⟩ := parse_append
  obtain ⟨m, hm⟩ := (readable skinText furText).2 ⟨⟨outer, houter⟩, inner, hinner⟩
  obtain ⟨buffers, depths, tables⟩ := acts _ _ m outer inner hm houter hinner
  have built : ofDirectives furDirectives = .ok inner := by
    rw [parse, read] at hinner
    exact hinner
  obtain ⟨ss, hss, -, pixels⟩ := runs furDirectives inner built
  have white := (pixels ⟨255, 255, 255, 7⟩).symm.trans inner_run.2.2
  refine ⟨m, outer, inner, ss, hm, houter, hinner, inner_run.2.1, outer_run.2, ?_, ?_, tables,
    built, hss, ?_⟩
  · rw [buffers, inner_run.2.1, outer_run.2]
  · rw [depths, outer_run.1, inner_run.1]
  · simpa [Pixel.bytes, Pixel.ofColor, Pixel.color, Color.ext_iff] using white

end Recoloring

end Paperdoll
