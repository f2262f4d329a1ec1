import Paperdoll.Proofs.Chain

/-!
# Byte strings, pixel by pixel

A recoloring is a tree, and a tree is **run** on the bytes of a pixel by a walk through its nodes:
what is inside writes to the bytes before what is outside reads them, and a table looks up the color
that the first three bytes spell and writes what it finds over it. `run?` walks the whole tree, the
parts that do nothing included, and `runAll?` does so for every four bytes of a byte string.

**Theorem (`applyBuffer_pointwise`).** Whatever the tree and the byte string, recoloring keeps the
length, the bytes behind the last full pixel and every alpha, and gives every pixel the color that
the recoloring makes of its color, wherever it stands and whatever stands beside it. That is what
running the tree leaves behind, which never breaks off; it makes no difference if a string is left
alone at once because there is nothing to do, or if what does nothing is left out of the tree.

The walk is followed once, on three bytes with any others behind them (`run?_cons`). Everything else
is about strings that are cut into fours, by recursion on the string.
-/

namespace Paperdoll

/-! ## Pixels in byte strings -/

/-- The pixel is the one with number `i` in a byte string. -/
def Pixel.IsAt (p : Pixel) (bytes : List UInt8) (i : Nat) : Prop :=
  (bytes.drop (4 * i)).take 4 = p.bytes

instance (p : Pixel) (bytes : List UInt8) (i : Nat) : Decidable (p.IsAt bytes i) :=
  inferInstanceAs (Decidable (_ = _))

namespace Pixel

theorem isAt_zero {p q : Pixel} {rest : List UInt8} : p.IsAt (q.bytes ++ rest) 0 ↔ p = q := by
  obtain ⟨red, green, blue, alpha⟩ := p
  obtain ⟨red', green', blue', alpha'⟩ := q
  show [red', green', blue', alpha'] = [red, green, blue, alpha] ↔ _
  simp only [List.cons.injEq, and_true, mk.injEq, eq_comm]

theorem isAt_succ {p q : Pixel} {rest : List UInt8} {i : Nat} :
    p.IsAt (q.bytes ++ rest) (i + 1) ↔ p.IsAt rest i := Iff.rfl

theorem IsAt.lt {p : Pixel} {bytes : List UInt8} {i : Nat} (h : p.IsAt bytes i) :
    4 * i + 4 ≤ bytes.length := by
  have four := congrArg List.length h
  have length : p.bytes.length = 4 := rfl
  rw [List.length_take, List.length_drop, length] at four
  omega

theorem exists_isAt : ∀ (bytes : List UInt8) (i : Nat), i < bytes.length / 4 →
    ∃ p : Pixel, p.IsAt bytes i
  | red :: green :: blue :: alpha :: _, 0, _ => ⟨⟨red, green, blue, alpha⟩, rfl⟩
  | _ :: _ :: _ :: _ :: rest, i + 1, h => by
    simp only [List.length_cons] at h
    exact exists_isAt rest i (by omega)
  | [], _, h | [_], _, h | [_, _], _, h | [_, _, _], _, h => by
    simp only [List.length_cons, List.length_nil] at h
    omega

end Pixel

namespace Recoloring

/-! ## Running a tree -/

/-- Looks up the color at the front of a byte string and writes what it is sent to over it. There
is no color in fewer than three bytes. -/
def overwrite? (s : Substitution) : List UInt8 → Option (List UInt8)
  | red :: green :: blue :: rest =>
    match s.get? ⟨red, green, blue⟩ with
    | some c => some (c.red :: c.green :: c.blue :: rest)
    | none => some (red :: green :: blue :: rest)
  | _ => none

/-- Walks through all nodes of a tree, the innermost first. -/
def run? : Recoloring → List UInt8 → Option (List UInt8)
  | same, bytes => some bytes
  | table s, bytes => overwrite? s bytes
  | after outer inner, bytes => do
    let bytes ← inner.run? bytes
    outer.run? bytes

/-- Runs a tree on every four bytes; a shorter rest stays. -/
def runAll? (m : Recoloring) : List UInt8 → Option (List UInt8)
  | red :: green :: blue :: alpha :: rest => do
    let pixel ← m.run? [red, green, blue, alpha]
    let others ← m.runAll? rest
    return pixel ++ others
  | rest => some rest

/-- The tree put together anew by the smart constructors. -/
def rebuild : Recoloring → Recoloring
  | same => same
  | table s => replace s
  | after outer inner => outer.rebuild.compose inner.rebuild

variable {m : Recoloring}

/-- **A walk through the tree** leaves the new color behind and does not get to the other bytes. -/
theorem run?_cons (m : Recoloring) (c : Color) (rest : List UInt8) :
    m.run? (c.red :: c.green :: c.blue :: rest) =
      some ((m.apply c).red :: (m.apply c).green :: (m.apply c).blue :: rest) := by
  induction m generalizing c with
  | same => rfl
  | table s =>
    unfold run? overwrite? apply Substitution.apply
    show (match s.get? c with | some d => _ | none => _) = _
    cases s.get? c <;> rfl
  | after outer inner outerRun innerRun =>
    rw [run?, innerRun, Option.bind_eq_bind, Option.bind_some, outerRun, apply]

/-- On fewer than three bytes only a tree without tables can be run. -/
theorem run?_of_short {bytes : List UInt8} (short : bytes.length < 3) (m : Recoloring) :
    m.run? bytes = if m.depth = 0 then some bytes else none := by
  induction m with
  | same => rfl
  | table s =>
    unfold run? overwrite?
    split
    next => simp only [List.length_cons] at short; omega
    next => rfl
  | after outer inner outerRun innerRun =>
    rw [run?, innerRun, depth]
    by_cases bare : inner.depth = 0
    · rw [if_pos bare, Option.bind_eq_bind, Option.bind_some, outerRun, bare, Nat.add_zero]
    · rw [if_neg bare, if_neg (by omega)]
      rfl

theorem applyFront?_eq_run? (m : Recoloring) (bytes : List UInt8) :
    m.applyFront? bytes = m.run? bytes := by
  unfold applyFront?
  match bytes with
  | red :: green :: blue :: rest =>
    have run := m.run?_cons ⟨red, green, blue⟩ rest
    rw [run]
    by_cases bare : m.depth = 0
    · have none : m.tables = [] := List.length_eq_zero_iff.1 (m.depth_eq_length_tables ▸ bare)
      rw [if_pos bare, apply_eq_foldr_tables, none, List.foldr_nil]
    · rw [if_neg bare]
  | [] | [_] | [_, _] => exact (run?_of_short (by simp) m).symm

theorem apply_rebuild (m : Recoloring) (c : Color) : m.rebuild.apply c = m.apply c := by
  induction m generalizing c with
  | same => rfl
  | table s => exact apply_replace s c
  | after outer inner outerApply innerApply =>
    rw [rebuild, apply_compose, innerApply, outerApply, apply]

/-! ## Every four bytes -/

/-- Running the tree everywhere succeeds, with the pixels in their new colors. -/
theorem runAll?_eq (m : Recoloring) : ∀ bytes, m.runAll? bytes = some (m.applyPixels bytes)
  | [] | [_] | [_, _] | [_, _, _] => rfl
  | red :: green :: blue :: alpha :: rest => by
    have run := m.run?_cons ⟨red, green, blue⟩ [alpha]
    rw [runAll?, run, runAll?_eq m rest]
    rfl

theorem applyPixels_congr {m' : Recoloring} (h : ∀ c, m.apply c = m'.apply c) :
    ∀ bytes, m.applyPixels bytes = m'.applyPixels bytes
  | [] | [_] | [_, _] | [_, _, _] => rfl
  | red :: green :: blue :: alpha :: rest => by
    simp only [applyPixels, applyPixels_congr h rest, h]

theorem runAll?_eq_applyBuffer {m' : Recoloring} (h : ∀ c, m'.apply c = m.apply c)
    (bytes : List UInt8) : m.runAll? bytes = some (m'.applyBuffer bytes) := by
  rw [runAll?_eq, applyBuffer_eq, applyPixels_congr h]

theorem length_applyPixels (m : Recoloring) : ∀ bytes, (m.applyPixels bytes).length = bytes.length
  | [] | [_] | [_, _] | [_, _, _] => rfl
  | _ :: _ :: _ :: _ :: rest => by
    simp only [applyPixels, List.length_cons, length_applyPixels m rest]

/-- Each pixel is given its new color, with no regard to the others. -/
theorem isAt_applyPixels {p : Pixel} : ∀ (bytes : List UInt8) (i : Nat), p.IsAt bytes i →
    (p.recolor m).IsAt (m.applyPixels bytes) i
  | red :: green :: blue :: alpha :: rest, 0, h => by
    have first : p = ⟨red, green, blue, alpha⟩ := Pixel.isAt_zero.1 h
    subst first
    rfl
  | red :: green :: blue :: alpha :: rest, i + 1, h => by
    have later : p.IsAt rest i := Pixel.isAt_succ (q := ⟨red, green, blue, alpha⟩).1 h
    exact isAt_applyPixels rest i later
  | [], _, h | [_], _, h | [_, _], _, h | [_, _, _], _, h => by
    have room := h.lt
    simp only [List.length_cons, List.length_nil] at room
    omega
termination_by _ i => i

theorem drop_applyPixels (m : Recoloring) : ∀ bytes,
    (m.applyPixels bytes).drop (4 * (bytes.length / 4)) = bytes.drop (4 * (bytes.length / 4))
  | [] | [_] | [_, _] | [_, _, _] => rfl
  | red :: green :: blue :: alpha :: rest => by
    have fours : 4 * ((red :: green :: blue :: alpha :: rest).length / 4) =
        4 * (rest.length / 4) + 4 := by
      simp only [List.length_cons]
      omega
    rw [fours]
    exact drop_applyPixels m rest

/-- **Recoloring a byte string is a pointwise map of colors**, and no shortcut shows. -/
theorem applyBuffer_pointwise (m : Recoloring) (bytes : List UInt8) :
    ((m.applyBuffer bytes).length = bytes.length ∧
      (m.applyBuffer bytes).drop (4 * (bytes.length / 4)) =
        bytes.drop (4 * (bytes.length / 4))) ∧
    (∀ i, i < bytes.length / 4 ↔ ∃ p : Pixel, p.IsAt bytes i) ∧
    (∀ i (p : Pixel), p.IsAt bytes i →
      (Pixel.ofColor (m.apply p.color) p.alpha).IsAt (m.applyBuffer bytes) i) ∧
    (∀ c, m.run? (Pixel.ofColor c 255).bytes = some (Pixel.ofColor (m.apply c) 255).bytes) ∧
    (∀ front, m.run? front = m.applyFront? front) ∧
    m.runAll? bytes = some (m.applyBuffer bytes) ∧
    (∀ outer inner,
      (after outer inner).runAll? bytes = some ((outer.compose inner).applyBuffer bytes)) ∧
    (∀ s, (table s).runAll? bytes = some ((replace s).applyBuffer bytes)) ∧
    m.runAll? bytes = some (m.rebuild.applyBuffer bytes) := by
  refine ⟨?_, fun i => ⟨Pixel.exists_isAt bytes i, ?_⟩, fun i p h => ?_,
    fun c => m.run?_cons c [255], fun front => (applyFront?_eq_run? m front).symm,
    runAll?_eq_applyBuffer (fun _ => rfl) bytes,
    fun outer inner => runAll?_eq_applyBuffer (apply_compose outer inner) bytes,
    fun s => runAll?_eq_applyBuffer (apply_replace s) bytes,
    runAll?_eq_applyBuffer (apply_rebuild m) bytes⟩
  · rw [applyBuffer_eq]
    exact ⟨length_applyPixels m bytes, drop_applyPixels m bytes⟩
  · rintro ⟨p, h⟩
    have room := h.lt
    omega
  · rw [applyBuffer_eq]
    exact isAt_applyPixels bytes i h

def idleTree : Recoloring :=
  .after (.after .same (.table (Substitution.empty.insert ⟨0xaa, 0xbb, 0xcc⟩ ⟨0x11, 0x22, 0x33⟩)))
    (.table .empty)

/-- A pixel, a half transparent one, and a byte. -/
def nineBytes : List UInt8 :=
  [1, 2, 3, 4, 0xaa, 0xbb, 0xcc, 0x40, 9]

theorem applyBuffer_pointwise_idleTree :
    (⟨0xaa, 0xbb, 0xcc, 0x40⟩ : Pixel).IsAt nineBytes 1 ∧
      (⟨0x11, 0x22, 0x33, 0x40⟩ : Pixel).IsAt (idleTree.applyBuffer nineBytes) 1 ∧
      idleTree.runAll? nineBytes = some (idleTree.rebuild.applyBuffer nineBytes) ∧
      idleTree.rebuild.depth = 1 := by
  obtain ⟨-, -, pixels, -, -, -, -, -, shortened⟩ := applyBuffer_pointwise idleTree nineBytes
  have here : (⟨0xaa, 0xbb, 0xcc, 0x40⟩ : Pixel).IsAt nineBytes 1 := by decide
  have color : idleTree.apply ⟨0xaa, 0xbb, 0xcc⟩ = ⟨0x11, 0x22, 0x33⟩ := by decide +kernel
  have there := pixels 1 _ here
  rw [Pixel.color, color] at there
  exact ⟨here, there, shortened, by decide +kernel⟩

end Recoloring

end Paperdoll
