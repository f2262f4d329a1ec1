import Paperdoll.Proofs.Notation
import Paperdoll.Proofs.Writing

/-!
# Faithful: the strict form keeps what is written

**Theorem (`lawful_strict`).** The library of the strict form can be relied on.

Texts and numbers are read back as they are (`Writes.quoted`, `exists_writes_single`), and so are the
parts of an array (`Writes.array`). The fields of a record are written in their declared order, each
once, so each is found again (`fields?_object`).
-/

namespace Paperdoll.Json

/-! ## Fields -/

section Fields

variable {d : Dialect}

theorem fieldsFrom_heldMember {names : List String} {ms fields : List (String × Tree)}
    (known : ∀ m ∈ ms, m.1 ∈ names) (distinct : (ms.map Prod.fst).Nodup)
    (fresh : ∀ m ∈ ms, ∀ f ∈ fields, f.1 ≠ m.1) :
    d.fieldsFrom names fields (ms.map heldMember) = (fields.reverse ++ ms, true) := by
  induction ms generalizing fields with
  | nil => simp [Dialect.fieldsFrom]
  | cons m ms ih =>
    rw [List.map_cons, List.nodup_cons] at distinct
    have listed : names.contains m.1 = true := by
      simpa using known m List.mem_cons_self
    have unused : fields.any (·.1 == m.1) = false := by
      simpa using fresh m List.mem_cons_self
    rw [List.map_cons, heldMember, Dialect.fieldsFrom, if_pos listed, unused,
      if_neg Bool.false_ne_true, ih (fun m' h => known m' (List.mem_cons_of_mem m h)) distinct.2]
    · simp
    · intro m' h f hf
      rcases List.mem_cons.1 hf with rfl | hf
      · exact fun same => distinct.1 (List.mem_map.2 ⟨m', h, same.symm⟩)
      · exact fresh m' (List.mem_cons_of_mem m h) f hf

theorem find?_key {ms : List (String × Tree)} (distinct : (ms.map Prod.fst).Nodup) :
    ∀ m ∈ ms, ms.find? (·.1 == m.1) = some m := by
  induction ms with
  | nil => simp
  | cons m ms ih =>
    rw [List.map_cons, List.nodup_cons] at distinct
    intro m' h
    rcases List.mem_cons.1 h with rfl | h
    · simp
    · have other : m.1 ≠ m'.1 := fun same => distinct.1 (List.mem_map.2 ⟨m', h, same.symm⟩)
      rw [List.find?_cons_of_neg (by simpa using other), ih distinct.2 m' h]

theorem forall₂_zip {α β : Type} {R : α → β → Prop} (names : List String) {as : List α}
    {bs : List β} (h : List.Forall₂ R as bs) :
    List.Forall₂ (fun a b => a.1 = b.1 ∧ R a.2 b.2) (names.zip as) (names.zip bs) := by
  induction h generalizing names with
  | nil => simp
  | cons head _ ih =>
    cases names with
    | nil => exact .nil
    | cons name names => exact .cons ⟨rfl, head⟩ (ih names)

/-- **Fields that are written in their order** are found. -/
theorem fields?_object (ms : List (String × Tree)) (distinct : (ms.map Prod.fst).Nodup) :
    d.fields? (ms.map Prod.fst) (.object (ms.map heldMember)) =
      some (ms.map fun m => some m.2) := by
  have taken : d.fieldsFrom (ms.map Prod.fst) [] (ms.map heldMember) = ([].reverse ++ ms, true) :=
    fieldsFrom_heldMember (fun m h => List.mem_map_of_mem h) distinct (by simp)
  rw [Dialect.fields?, Dialect.fields]
  simp only [Tree.members?, taken, List.reverse_nil, List.nil_append, if_true, List.map_map,
    Option.some.injEq]
  refine List.map_congr_left fun m h => ?_
  rw [Function.comp_apply, find?_key distinct m h, Option.map_some]

end Fields

/-! ## Scalars -/

theorem runToken?_of_numeral? {cs : List Char} {n : Numeral} (h : Strict.numeral? cs = some n) :
    Strict.runToken? cs = some (.scalar (.number n)) := by
  have keyword {s : String} (none : Strict.numeral? s.toList = none) : String.ofList cs ≠ s := by
    rintro rfl
    simp [h] at none
  unfold Strict.runToken?
  split
  next eq => exact absurd eq (keyword (by decide))
  next eq => exact absurd eq (keyword (by decide))
  next eq => exact absurd eq (keyword (by decide))
  next => rw [h, Option.map_some]

/-- **A number is read back** if it is finite, and what is written instead is no number. -/
theorem exists_writes_single (x : Binary .single) :
    ∃ t, Writes (Number.binaryText Number.singleStyle x) t ∧
      t.toSingle? = if x.isFinite then some x else none := by
  unfold Number.binaryText
  split
  next finite =>
    obtain ⟨n, numeral, value⟩ := numeral?_text x finite
    exact ⟨.number n, .run (isRunChar_text _ x) (runToken?_of_numeral? numeral), value⟩
  next =>
    have null : ∀ c ∈ "null".toList, Strict.isRunChar c = true := List.all_eq_true.1 (by decide)
    exact ⟨.null, .run null rfl, rfl⟩

theorem writes_powerText (m k : Nat) :
    Writes (powerText m k) (.number (.decimal ⟨false, Nat.toDigits 10 m, none, some k⟩)) :=
  .run (isRunChar_powerText m k) (runToken?_of_numeral? (numeral?_powerText m k))

/-! ## Whole documents -/

theorem exists_values {ts : List String} (h : ∀ t ∈ ts, ∃ v, Writes t v) :
    ∃ vs, List.Forall₂ Writes ts vs := by
  induction ts with
  | nil => exact ⟨[], .nil⟩
  | cons t ts ih =>
    rw [List.forall_mem_cons] at h
    obtain ⟨v, head⟩ := h.1
    obtain ⟨vs, tail⟩ := ih h.2
    exact ⟨v :: vs, .cons head tail⟩

theorem map_parse {ts : List String} {vs : List Tree} (h : List.Forall₂ Writes ts vs) :
    ts.map Strict.parse = vs.map some := by
  rw [← List.forall₂_eq_eq_eq, List.forall₂_map_left_iff, List.forall₂_map_right_iff]
  exact h.imp fun _ _ => Writes.parse

theorem mapM_parse {ts : List String} {vs : List Tree} (h : List.Forall₂ Writes ts vs) :
    ts.mapM Strict.parse = some vs := by
  induction h with
  | nil => rfl
  | cons head _ ih => simp [head.parse, ih]

namespace Library

theorem IsScalar.exists_writes {t : String} (h : strict.IsScalar t) : ∃ v, Writes t v := by
  cases h with
  | quoted s => exact ⟨_, .quoted s⟩
  | single x => exact (exists_writes_single x).imp fun _ h => h.1
  | power m k => exact ⟨_, writes_powerText m k⟩

theorem IsFlat.exists_writes {t : String} (h : strict.IsFlat t) : ∃ v, Writes t v := by
  cases h with
  | scalar h => exact h.exists_writes
  | array h =>
    obtain ⟨vs, written⟩ := exists_values fun t member => (h t member).exists_writes
    exact ⟨.array vs, .array written⟩

/-- **The strict form can be relied on.** -/
theorem lawful_strict : strict.Lawful where
  quoted s := (Writes.quoted s).parse_bind Tree.toText?
  finite x finite := by
    obtain ⟨t, written, value⟩ := exists_writes_single x
    exact (written.parse_bind Tree.toSingle?).trans (by rw [value, if_pos finite])
  notFinite x infinite := if_neg (by simp [infinite])
  null := ⟨.null, rfl, rfl⟩
  beyond short low high :=
    ((writes_powerText _ _).parse_bind Tree.toSingle?).trans (ofNumeral?_beyond short low high)
  items scalar := by
    obtain ⟨vs, written⟩ := exists_values fun t member => (scalar t member).exists_writes
    exact ((Writes.array written).parse_bind Tree.items?).trans (mapM_parse written).symm
  fields {names ts} distinct complete flat := by
    obtain ⟨vs, written⟩ := exists_values fun t member => (flat t member).exists_writes
    have same : names.length = vs.length := complete.trans written.length_eq
    have keys : (names.zip vs).map Prod.fst = names := List.map_fst_zip same.le
    have values : (names.zip vs).map Prod.snd = vs := List.map_snd_zip same.ge
    -- the names are distinct, so the machine takes every member as a field
    have found : Dialect.strict.fields? names (.object ((names.zip vs).map heldMember)) =
        some ((names.zip vs).map fun m => some m.2) := by
      have := fields?_object (d := .strict) (names.zip vs) (keys.symm ▸ distinct)
      rwa [keys] at this
    have read := (Writes.object (forall₂_zip names written)).parse_bind
      (Dialect.strict.fields? names)
    refine (read.trans found).trans (congrArg some ?_)
    rw [← Function.comp_def, ← List.map_map, values]
    exact (map_parse written).symm

end Library

end Paperdoll.Json
