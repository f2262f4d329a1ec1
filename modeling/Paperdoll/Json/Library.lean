import Paperdoll.Json.Dialect

/-!
# Libraries for documents

A record is read and written with a library that knows the written form and leaves to the record
which fields there are and what they hold. A **`Library`** takes a document apart, down to texts and
numbers of 32 bits, and puts the written parts of one together.

**`Library.Lawful`** is what can be relied on with any of them. `Library.strict` is the library of
the strict form.
-/

namespace Paperdoll.Json

structure Library where
  Document : Type
  document? : String → Option Document
  text? : Document → Option String
  single? : Document → Option (Binary .single)
  items? : Document → Option (List Document)
  /-- The values of the fields with the given names; a field may be missing. -/
  fields? : List String → Document → Option (List (Option Document))
  quoted : String → String
  singleText : Binary .single → String
  arrayText : List String → String
  objectText : List (String × String) → String

/-- A whole number times a power of ten, written with an exponent. -/
def powerText (m k : Nat) : String :=
  toString m ++ "e+" ++ toString k

/-- The number of 32 bits that a document holds. -/
def Tree.toSingle? : Tree → Option (Binary .single)
  | .number n => (Number.ofNumeral? n).map (·.toBinary .single)
  | _ => none

namespace Library

/-- What is written without brackets. -/
inductive IsScalar (L : Library) : String → Prop
  | quoted (s : String) : IsScalar L (L.quoted s)
  | single (x : Binary .single) : IsScalar L (L.singleText x)
  | power (m k : Nat) : IsScalar L (powerText m k)

/-- What is written with one pair of brackets at most. Libraries bound how deep they nest. -/
inductive IsFlat (L : Library) : String → Prop
  | scalar {t : String} : L.IsScalar t → IsFlat L t
  | array {ts : List String} : (∀ t ∈ ts, L.IsScalar t) → IsFlat L (L.arrayText ts)

/-- Texts are escaped so that they can be read back, and so are numbers printed, unless they are not
finite: then `null` is written, and that is no number. A literal beyond the numbers of 32 bits is
read as infinity. Arrays and records are taken apart into what they were put together from. -/
structure Lawful (L : Library) : Prop where
  quoted (s : String) : (L.document? (L.quoted s)).bind L.text? = some s
  finite (x : Binary .single) :
    x.isFinite = true → (L.document? (L.singleText x)).bind L.single? = some x
  notFinite (x : Binary .single) : x.isFinite = false → L.singleText x = "null"
  null : ∃ d, L.document? "null" = some d ∧ L.single? d = none
  beyond {m k : Nat} : m < 2 ^ 64 → 2 ^ 128 ≤ m * 10 ^ k → m * 10 ^ k ≤ 2 ^ 1023 →
    (L.document? (powerText m k)).bind L.single? = some (.infinity false)
  items {ts : List String} : (∀ t ∈ ts, L.IsScalar t) →
    (L.document? (L.arrayText ts)).bind L.items? = ts.mapM L.document?
  fields {names ts : List String} : names.Nodup → names.length = ts.length →
    (∀ t ∈ ts, L.IsFlat t) →
      (L.document? (L.objectText (names.zip ts))).bind (L.fields? names) =
        some (ts.map L.document?)

/-- The library of the strict form. -/
def strict : Library where
  Document := Tree
  document? := Strict.parse
  text? := Tree.toText?
  single? := Tree.toSingle?
  items? := Tree.items?
  fields? := Dialect.strict.fields?
  quoted := Json.quoted
  singleText := Number.binaryText Number.singleStyle
  arrayText := Json.arrayText
  objectText := Json.objectText

end Library

end Paperdoll.Json
