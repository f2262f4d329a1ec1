import Paperdoll.Character.Identity
import Paperdoll.Proofs.Faithful

/-!
# Keeping: an identity that is written and read again

**Theorem (`read?_write_of_read?`).** With every library that can be relied on, an identity that has
been read and is written again is read as the same identity, in all its fields, if the numbers of
its offsets are finite. If one of them is not, what is written is refused. Such identities are read:
their numbers lie beyond those of 32 bits.

The library reads back single texts and numbers and takes arrays and records apart. What is left is
the identity's own part: the fields are written and read in the same order under the same names, and
an offset is a pair of numbers (`read?_writeWith`).
-/

namespace Paperdoll.Identity

open Json

variable {L : Library} (lawful : L.Lawful)

include lawful

/-! ## Fields -/

theorem readText?_quoted (s : String) : readText? L (L.document? (L.quoted s)) = some s := by
  obtain ⟨d, document, text⟩ := Option.bind_eq_some_iff.1 (lawful.quoted s)
  rw [document]
  exact text

/-- **A number is read back** if it is finite, and what is written instead is no number. -/
theorem exists_single (x : Binary .single) :
    ∃ d, L.document? (L.singleText x) = some d ∧
      L.single? d = if x.isFinite then some x else none := by
  split
  next finite => exact Option.bind_eq_some_iff.1 (lawful.finite x finite)
  next infinite =>
    rw [lawful.notFinite x (Bool.eq_false_iff.2 infinite)]
    exact lawful.null

theorem readOffsetField?_arrayText {s t : String} {d e : L.Document} (hs : L.IsScalar s)
    (ht : L.IsScalar t) (first : L.document? s = some d) (second : L.document? t = some e) :
    readOffsetField? L (L.document? (L.arrayText [s, t])) = do
      let x ← L.single? d
      let y ← L.single? e
      return ⟨x, y⟩ := by
  have items : (L.document? (L.arrayText [s, t])).bind L.items? = some [d, e] := by
    rw [lawful.items (by simp [hs, ht])]
    simp [first, second]
  obtain ⟨a, array, items⟩ := Option.bind_eq_some_iff.1 items
  rw [array, readOffsetField?, readOffset?, items]
  rfl

theorem readOffsetField?_offsetText (o : Offset) :
    readOffsetField? L (L.document? (offsetText L o)) =
      if o.x.isFinite ∧ o.y.isFinite then some o else none := by
  obtain ⟨x, x_document, x_value⟩ := exists_single lawful o.x
  obtain ⟨y, y_document, y_value⟩ := exists_single lawful o.y
  rw [offsetText, readOffsetField?_arrayText lawful (.single _) (.single _) x_document y_document,
    x_value, y_value]
  by_cases hx : o.x.isFinite <;> by_cases hy : o.y.isFinite <;> simp [hx, hy]

/-! ## Identities -/

/-- **What is written is read field by field.** -/
theorem read?_writeWith (i : Identity) {head arm : String} (h : L.IsFlat head) (a : L.IsFlat arm) :
    read? L (i.writeWith L head arm) = do
      let headOffset ← readOffsetField? L (L.document? head)
      let armOffset ← readOffsetField? L (L.document? arm)
      return { i with headOffset, armOffset } := by
  have distinct : fieldNames.Nodup := by decide
  have flat : ∀ t ∈ i.fieldStrings.map L.quoted ++ [head, arm], L.IsFlat t := by
    simp only [List.forall_mem_append, List.forall_mem_map, List.forall_mem_cons]
    exact ⟨fun s _ => .scalar (.quoted s), h, a, List.forall_mem_nil _⟩
  have complete : fieldNames.length = (i.fieldStrings.map L.quoted ++ [head, arm]).length := rfl
  obtain ⟨d, document, fields⟩ :=
    Option.bind_eq_some_iff.1 (lawful.fields distinct complete flat)
  rw [read?, writeWith, document]
  change ofDocument? L d = _
  rw [ofDocument?, fields, Option.bind_eq_bind, Option.bind_some]
  simp only [fieldStrings, List.map_cons, List.map_nil, List.cons_append, List.nil_append,
    readText?_quoted lawful]
  rfl

def offsetNumbers (i : Identity) : List (Binary .single) :=
  [i.headOffset.x, i.headOffset.y, i.armOffset.x, i.armOffset.y]

/-- **What is written is read back** if all numbers are finite, and refused if not. -/
theorem read?_write (i : Identity) :
    read? L (i.write L) = if ∀ x ∈ i.offsetNumbers, x.isFinite then some i else none := by
  have flat (o : Offset) : L.IsFlat (offsetText L o) := .array (by simp [Library.IsScalar.single])
  rw [write, read?_writeWith lawful i (flat _) (flat _), readOffsetField?_offsetText lawful,
    readOffsetField?_offsetText lawful]
  have all : (∀ x ∈ i.offsetNumbers, x.isFinite) ↔
      (i.headOffset.x.isFinite ∧ i.headOffset.y.isFinite) ∧
        i.armOffset.x.isFinite ∧ i.armOffset.y.isFinite := by
    simp [offsetNumbers, and_assoc]
  rw [if_congr all rfl rfl]
  by_cases h : i.headOffset.x.isFinite ∧ i.headOffset.y.isFinite
  · by_cases a : i.armOffset.x.isFinite ∧ i.armOffset.y.isFinite
    · rw [if_pos h, if_pos a, if_pos ⟨h, a⟩]
      rfl
    · rw [if_pos h, if_neg a, if_neg (not_and_of_not_right _ a)]
      rfl
  · rw [if_neg h, if_neg (not_and_of_not_left (i.armOffset.x.isFinite ∧ i.armOffset.y.isFinite) h)]
    rfl

def farOffset : Offset := ⟨.infinity false, .infinity false⟩

/-- **Literals beyond the numbers of 32 bits** are read. -/
theorem read?_writeWith_beyond (i : Identity) {m k : Nat} (short : m < 2 ^ 64)
    (low : 2 ^ 128 ≤ m * 10 ^ k) (high : m * 10 ^ k ≤ 2 ^ 1023) :
    read? L (i.writeWith L (L.arrayText [powerText m k, powerText m k])
        (L.arrayText [powerText m k, powerText m k])) =
      some { i with headOffset := farOffset, armOffset := farOffset } := by
  obtain ⟨d, document, value⟩ := Option.bind_eq_some_iff.1 (lawful.beyond short low high)
  have flat : L.IsFlat (L.arrayText [powerText m k, powerText m k]) :=
    .array (by simp [Library.IsScalar.power])
  have offset := readOffsetField?_arrayText lawful (.power m k) (.power m k) document document
  rw [value] at offset
  rw [read?_writeWith lawful i flat flat, offset]
  rfl

/-- **Reading, writing and reading again.** -/
theorem read?_write_of_read? :
    (∀ text i, read? L text = some i →
      ((∀ x ∈ i.offsetNumbers, x.isFinite = true) → read? L (i.write L) = some i) ∧
      ((∃ x ∈ i.offsetNumbers, x.isFinite = false) → read? L (i.write L) = none)) ∧
    ∀ (i : Identity) (m k : Nat), m < 2 ^ 64 → 2 ^ 128 ≤ m * 10 ^ k → m * 10 ^ k ≤ 2 ^ 1023 →
      let offset := L.arrayText [powerText m k, powerText m k]
      let far := { i with headOffset := farOffset, armOffset := farOffset }
      read? L (i.writeWith L offset offset) = some far ∧ read? L (far.write L) = none := by
  have refused (i : Identity) (infinite : ∃ x ∈ i.offsetNumbers, x.isFinite = false) :
      read? L (i.write L) = none := by
    obtain ⟨x, member, infinite⟩ := infinite
    rw [read?_write lawful, if_neg fun finite => by simp [finite x member] at infinite]
  refine ⟨fun text i _ => ⟨fun finite => ?_, refused i⟩, fun i m k short low high => ?_⟩
  · rw [read?_write lawful, if_pos finite]
  · exact ⟨read?_writeWith_beyond lawful i short low high,
      refused _ ⟨_, List.mem_cons_self, rfl⟩⟩

omit lawful

/-- Texts with quotes and control characters, a number between two of 32 bits, one that is read
inexactly, one that is nearly too large, and the negative zero. -/
def unevenText : String :=
  "\x7b\"personalityArmOffset\":[-0,3e38],\"name\":\"\\u0001\\\"\\ud83d\\ude00\"," ++
    "\"hairType\":\"/\\/\\n\",\"personalityHeadOffset\":[0.1,7.038531e-26]\x7d"

def uneven : Identity where
  name := "\x01\"😀"
  hair := { kind := "//\n" }
  headOffset := ⟨⟨false, 0x3dcccccd⟩, ⟨false, 0x15ae43fd⟩⟩
  armOffset := ⟨⟨true, 0⟩, ⟨false, 0x7f61b1e6⟩⟩

theorem read?_write_of_read?_uneven :
    Library.strict.Lawful ∧ read? .strict unevenText = some uneven ∧
      (∀ x ∈ uneven.offsetNumbers, x.isFinite = true) ∧
      read? .strict (uneven.write .strict) = some uneven ∧
      2 ^ 128 ≤ 1 * 10 ^ 39 ∧
      read? .strict (write .strict { uneven with headOffset := farOffset, armOffset := farOffset }) =
        none := by
  obtain ⟨kept, far⟩ := read?_write_of_read? Library.lawful_strict
  have accepted : read? .strict unevenText = some uneven := by decide +kernel
  have finite : ∀ x ∈ uneven.offsetNumbers, x.isFinite = true := by decide
  have low : 2 ^ 128 ≤ 1 * 10 ^ 39 := by decide
  have refused := (far uneven 1 39 (by decide) low (by decide +kernel)).2
  exact ⟨Library.lawful_strict, accepted, finite, (kept unevenText uneven accepted).1 finite, low,
    refused⟩

def beyondText : String :=
  "\x7b\"personalityHeadOffset\":[1e39,0]\x7d"

def beyond : Identity where
  headOffset := ⟨.infinity false, .zero false⟩

/-- An identity with an infinite offset is read, but not what is written of it. -/
theorem read?_write_beyond :
    Library.strict.Lawful ∧ read? .strict beyondText = some beyond ∧
      read? .strict (beyond.write .strict) = none :=
  ⟨Library.lawful_strict, by decide +kernel, by
    rw [read?_write Library.lawful_strict, if_neg (by decide)]⟩

end Paperdoll.Identity
