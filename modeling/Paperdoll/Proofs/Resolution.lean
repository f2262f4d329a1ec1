import Mathlib.Data.List.Basic
import Paperdoll.Frame.Table

/-!
# Resolution: the region that a frame name leads to

A frame table is filled from the front: cells, rectangles and further names are put in one after
the other, and each further name takes the region that its target has at that moment. Nothing of
the sort is needed to say where a name leads. Reading the declarations from the back, a name
stands for the target of the last declaration of it, as that was resolved by the declarations
before; without one, for its rectangle, or else for the last cell that carries it (`BasedOn`).

**Theorem (`build_eq_resolve`).** The table of an atlas can be built exactly if the grid names no
cell beyond its declared size, no rectangle ends before it starts, and each further name finds its
target. Then every name has the region to which it is resolved from the back, and there are no
other names. If not, the error names a contradiction of the grid or the rectangles, or else the
first target that is not found.

A table is read by look-ups only, so each phase of the building is a statement about `get?`: the
grid leaves the last cell of a name (`addRows_of_fits`), the rectangles go before it
(`addRects_of_ordered`). The further names are an induction in which the table after `k` of them is
`resolve? k` (`addAliases_cases`).
-/

namespace Paperdoll

/-! ## Reading declarations from the back -/

/-- The named cells of a row, the first of which is in the given column, each with its column and
its row. -/
def rowCells (row column : Nat) (names : List (Option String)) : List (String × Nat × Nat) :=
  (names.zipIdx column).filterMap fun cell => cell.1.map fun name => (name, cell.2, row)

/-- The named cells of rows, the first of which has the given number, row by row. -/
def namedCells (row : Nat) (names : List (List (Option String))) : List (String × Nat × Nat) :=
  (names.zipIdx row).flatMap fun cells => rowCells cells.2 0 cells.1

namespace FrameGrid

variable {grid : FrameGrid} {name : String} {place : Nat × Nat}

/-- Column and row of the last cell that carries a name. -/
def lastCell? (grid : FrameGrid) (name : String) : Option (Nat × Nat) :=
  (namedCells 0 grid.names).reverse.lookup name

def Carries (grid : FrameGrid) (name : String) (place : Nat × Nat) : Prop :=
  ∃ cells, grid.names[place.2]? = some cells ∧ cells[place.1]? = some (some name)

/-- Row by row, one place comes before another. -/
def Before (place other : Nat × Nat) : Prop :=
  place.2 < other.2 ∨ place.2 = other.2 ∧ place.1 < other.1

/-- No cell behind this one carries the name. -/
structure IsLast (grid : FrameGrid) (name : String) (place : Nat × Nat) : Prop where
  carries : grid.Carries name place
  last : ∀ other, grid.Carries name other → other = place ∨ Before other place

end FrameGrid

theorem mem_rowCells {row column number : Nat} {name : String} {names : List (Option String)} :
    (name, column, row) ∈ rowCells number 0 names ↔
      number = row ∧ names[column]? = some (some name) := by
  unfold rowCells
  simp only [List.mem_filterMap, Option.map_eq_some_iff, Prod.mk.injEq, Prod.exists,
    List.mk_mem_zipIdx_iff_getElem?]
  constructor
  · rintro ⟨cell, _, here, _, rfl, rfl, rfl, rfl⟩
    exact ⟨rfl, here⟩
  · rintro ⟨rfl, here⟩
    exact ⟨some name, column, here, name, rfl, rfl, rfl, rfl⟩

theorem mem_namedCells {grid : FrameGrid} {name : String} {place : Nat × Nat} :
    (name, place) ∈ namedCells 0 grid.names ↔ grid.Carries name place := by
  obtain ⟨column, row⟩ := place
  unfold namedCells FrameGrid.Carries
  simp only [List.mem_flatMap, Prod.exists, List.mk_mem_zipIdx_iff_getElem?, mem_rowCells]
  constructor
  · rintro ⟨cells, _, there, rfl, here⟩
    exact ⟨cells, there, here⟩
  · rintro ⟨cells, there, here⟩
    exact ⟨cells, row, there, rfl, here⟩

theorem pairwise_zipIdx {α : Type} (l : List α) (n : Nat) :
    (l.zipIdx n).Pairwise fun a b => a.2 < b.2 := by
  rw [← List.pairwise_map (R := (· < ·)), List.zipIdx_map_snd]
  exact List.pairwise_lt_range'

theorem row_of_mem_rowCells {row column : Nat} {names : List (Option String)}
    {c : String × Nat × Nat} (h : c ∈ rowCells row column names) : c.2.2 = row := by
  obtain ⟨cell, -, named⟩ := List.mem_filterMap.1 h
  obtain ⟨name, -, rfl⟩ := Option.map_eq_some_iff.1 named
  rfl

/-- **The named cells stand row by row.** -/
theorem pairwise_namedCells (row : Nat) (names : List (List (Option String))) :
    (namedCells row names).Pairwise fun c d => FrameGrid.Before c.2 d.2 := by
  refine List.pairwise_flatMap.2 ⟨fun cells _ => ?_, ?_⟩
  · refine List.pairwise_filterMap.2 ((pairwise_zipIdx cells.1 0).imp ?_)
    intro a b before c hc d hd
    obtain ⟨name, -, rfl⟩ := Option.map_eq_some_iff.1 hc
    obtain ⟨other, -, rfl⟩ := Option.map_eq_some_iff.1 hd
    exact .inr ⟨rfl, before⟩
  · refine (pairwise_zipIdx names row).imp fun before c hc d hd => .inl ?_
    rw [row_of_mem_rowCells hc, row_of_mem_rowCells hd]
    exact before

namespace FrameGrid

variable {grid : FrameGrid} {name : String} {place : Nat × Nat}

theorem isLast_of_lastCell? (h : grid.lastCell? name = some place) : grid.IsLast name place := by
  obtain ⟨behind, before, split, others⟩ := List.lookup_eq_some_iff.1 h
  have cells : namedCells 0 grid.names = before.reverse ++ (name, place) :: behind.reverse := by
    rw [← List.reverse_reverse (namedCells 0 grid.names), split]
    simp
  refine ⟨mem_namedCells.1 (cells ▸ by simp), fun other carries => ?_⟩
  have mem := mem_namedCells.2 carries
  have order := pairwise_namedCells 0 grid.names
  rw [cells] at mem order
  rcases List.mem_append.1 mem with front | back
  · exact .inr ((List.pairwise_append.1 order).2.2 _ front _ List.mem_cons_self)
  · rcases List.mem_cons.1 back with same | late
    · exact .inl (congrArg Prod.snd same)
    · exact absurd rfl (bne_iff_ne.1 (others _ (List.mem_reverse.1 late)))

/-- **The last cell** is the one that no other comes behind. -/
theorem lastCell?_eq_some_iff : grid.lastCell? name = some place ↔ grid.IsLast name place := by
  refine ⟨isLast_of_lastCell?, fun last => ?_⟩
  cases found : grid.lastCell? name with
  | none =>
    have absent := List.lookup_eq_none_iff.1 found (name, place)
      (List.mem_reverse.2 (mem_namedCells.2 last.carries))
    simp at absent
  | some other =>
    have last' := isLast_of_lastCell? found
    rcases last.last other last'.carries with same | before
    · rw [same]
    · rcases last'.last place last.carries with same | before'
      · rw [same]
      · unfold Before at before before'
        omega

theorem lastCell?_eq_none_iff : grid.lastCell? name = none ↔ ∀ place, ¬ grid.Carries name place := by
  refine ⟨fun none place carries => ?_, fun absent => ?_⟩
  · have := List.lookup_eq_none_iff.1 none (name, place)
      (List.mem_reverse.2 (mem_namedCells.2 carries))
    simp at this
  · exact Option.eq_none_iff_forall_ne_some.2 fun place found =>
      absent place (isLast_of_lastCell? found).carries

end FrameGrid

/-- The grid names no cell beyond its declared size; cells without a frame count as well. -/
def FrameGrid.NamesFit (grid : FrameGrid) : Prop :=
  (∀ row < grid.names.length, row < grid.rows.toNat) ∧
    ∀ names ∈ grid.names, ∀ column < names.length, column < grid.columns.toNat

namespace Atlas

variable {a : Atlas}

def rectMap (a : Atlas) : Std.TreeMap String Corners :=
  a.rects.getD ∅

/-- The further names, each with its target, in the order in which they are declared. -/
def aliasList (a : Atlas) : List (String × String) :=
  a.aliases.getD []

/-- Neither the grid nor a rectangle contradicts itself. -/
def Consistent (a : Atlas) : Prop :=
  (∀ grid, a.grid = some grid → grid.NamesFit) ∧
    ∀ (name : String) (c : Corners), a.rectMap[name]? = some c → c.left ≤ c.right ∧ c.top ≤ c.bottom

/-- The region of a name without regard to the further names: its rectangle, or else the last cell
that carries it. -/
def base? (a : Atlas) (name : String) : Option Region :=
  match a.rectMap[name]? with
  | some c => Region.ofCorners? c
  | none => a.grid.bind fun grid =>
      (grid.lastCell? name).map fun cell => FrameTable.cell grid cell.1 cell.2

/-- `B` is where names lead without the further names: to the rectangle of that name, or else to the
last cell that carries it, whose corner stops at the last word. -/
structure BasedOn (a : Atlas) (B : String → Option Region) : Prop where
  rect : ∀ name c, a.rectMap[name]? = some c → c.left ≤ c.right → c.top ≤ c.bottom →
    ∃ r, B name = some r ∧ r.x = c.left ∧ r.y = c.top ∧
      r.x.toNat + r.width.toNat = c.right.toNat ∧ r.y.toNat + r.height.toNat = c.bottom.toNat
  cell : ∀ name grid column row, a.rectMap[name]? = none → a.grid = some grid →
    grid.IsLast name (column, row) → ∃ r, B name = some r ∧
      r.x.toNat = min (column * grid.cellWidth.toNat) (2 ^ 32 - 1) ∧
      r.y.toNat = min (row * grid.cellHeight.toNat) (2 ^ 32 - 1) ∧
      r.width = grid.cellWidth ∧ r.height = grid.cellHeight
  missing : ∀ name, a.rectMap[name]? = none →
    (∀ grid, a.grid = some grid → ∀ place, ¬ grid.Carries name place) → B name = none

theorem basedOn_base? (a : Atlas) : a.BasedOn a.base? where
  rect name c declared wide high := by
    refine ⟨⟨c.left, c.top, c.right - c.left, c.bottom - c.top⟩, ?_, rfl, rfl, ?_, ?_⟩
    · rw [base?, declared]
      exact if_pos ⟨wide, high⟩
    · rw [UInt32.toNat_sub_of_le _ _ wide, Nat.add_sub_cancel' (UInt32.le_iff_toNat_le.1 wide)]
    · rw [UInt32.toNat_sub_of_le _ _ high, Nat.add_sub_cancel' (UInt32.le_iff_toNat_le.1 high)]
  cell name grid column row free declared last := by
    refine ⟨FrameTable.cell grid column row, ?_, toNat_capped _, toNat_capped _, rfl, rfl⟩
    rw [base?, free, declared]
    simp [FrameGrid.lastCell?_eq_some_iff.2 last]
  missing name free absent := by
    rw [base?, free]
    cases declared : a.grid with
    | none => rfl
    | some grid => simp [FrameGrid.lastCell?_eq_none_iff.2 (absent grid declared)]

/-- The region to which the first `k` further names resolve a name. -/
def resolve? (a : Atlas) : Nat → String → Option Region
  | 0, name => a.base? name
  | k + 1, name =>
    match a.aliasList[k]? with
    | some (further, target) =>
      if further = name then a.resolve? k target else a.resolve? k name
    | none => a.resolve? k name

/-- The further name with number `j`, if there is one, finds its target. -/
def Finds (a : Atlas) (j : Nat) : Prop :=
  ∀ further target, a.aliasList[j]? = some (further, target) → (a.resolve? j target).isSome

theorem not_finds {j : Nat} {further target : String}
    (declared : a.aliasList[j]? = some (further, target)) (missing : a.resolve? j target = none) :
    ¬ a.Finds j := by
  intro finds
  have found := finds further target declared
  rw [missing] at found
  cases found

theorem finds_of_eq_some {j : Nat} {further target : String} {region : Region}
    (declared : a.aliasList[j]? = some (further, target))
    (found : a.resolve? j target = some region) : a.Finds j := by
  intro f s declared'
  cases declared.symm.trans declared'
  rw [found]
  rfl

theorem finds_from_of_succ {k : Nat} (first : a.Finds k) {j : Nat}
    (others : ∀ i ≥ k + 1, i < j → a.Finds i) : ∀ i ≥ k, i < j → a.Finds i := by
  intro i hi lt
  by_cases same : i = k
  · exact same ▸ first
  · exact others i (by omega) lt

/-- `R k` is where names lead when the first `k` further names are declared: a name that is among
them leads where the target of its last declaration led before that. -/
structure ResolvedBy (a : Atlas) (R : Nat → String → Option Region) : Prop where
  declared : ∀ k j name target, j < k → a.aliasList[j]? = some (name, target) →
    (∀ i, j < i → i < k → ∀ other, a.aliasList[i]? ≠ some (name, other)) → R k name = R j target
  undeclared : ∀ k name, (∀ i < k, ∀ other, a.aliasList[i]? ≠ some (name, other)) →
    R k name = a.base? name

theorem resolve?_succ {k : Nat} {further target : String}
    (h : a.aliasList[k]? = some (further, target)) (name : String) :
    a.resolve? (k + 1) name =
      if further = name then a.resolve? k target else a.resolve? k name := by
  rw [resolve?, h]

theorem resolve?_succ_of_other {k : Nat} {name : String}
    (h : ∀ other, a.aliasList[k]? ≠ some (name, other)) :
    a.resolve? (k + 1) name = a.resolve? k name := by
  rw [resolve?]
  cases last : a.aliasList[k]? with
  | none => rfl
  | some e =>
    have ne : e.1 ≠ name := fun same => h e.2 (by rw [last, ← same])
    exact if_neg ne

theorem resolvedBy_resolve? (a : Atlas) : a.ResolvedBy a.resolve? where
  declared k j name target before declared later := by
    induction k with
    | zero => omega
    | succ k ih =>
      by_cases here : j = k
      · subst here
        rw [resolve?_succ declared, if_pos rfl]
      · rw [resolve?_succ_of_other (later k (by omega) (by omega))]
        exact ih (by omega) fun i hi hk => later i hi (by omega)
  undeclared k name never := by
    induction k with
    | zero => rfl
    | succ k ih =>
      rw [resolve?_succ_of_other (never k (by omega))]
      exact ih fun i hi => never i (by omega)

end Atlas

namespace FrameTable

variable {grid : FrameGrid} {t : FrameTable}

/-! ## Putting in many frames -/

def insertAll (t : FrameTable) (entries : List (String × Region)) : FrameTable :=
  entries.foldl (fun t entry => t.insert entry.1 entry.2) t

theorem insertAll_append (t : FrameTable) (entries others : List (String × Region)) :
    t.insertAll (entries ++ others) = (t.insertAll entries).insertAll others :=
  List.foldl_append

/-- Of several regions for a name the last one counts. -/
theorem get?_insertAll (t : FrameTable) (entries : List (String × Region)) (name : String) :
    (t.insertAll entries).get? name = (entries.reverse.lookup name).or (t.get? name) := by
  induction entries generalizing t with
  | nil => rfl
  | cons entry rest ih =>
    obtain ⟨other, region⟩ := entry
    show ((t.insert other region).insertAll rest).get? name = _
    rw [ih, get?_insert, List.reverse_cons, List.lookup_append, Option.or_assoc]
    congr 1
    by_cases same : other = name
    · subst same
      rw [if_pos rfl, List.lookup_cons_self, Option.some_or]
    · have hne : (name == other) = false := beq_false_of_ne (Ne.symm same)
      rw [if_neg same, List.lookup_cons, hne]
      rfl

theorem lookup_map {α β : Type} (f : α → β) (entries : List (String × α)) (name : String) :
    (entries.map fun entry => (entry.1, f entry.2)).lookup name = (entries.lookup name).map f := by
  induction entries with
  | nil => rfl
  | cons entry rest ih =>
    rw [List.map_cons, List.lookup_cons, List.lookup_cons, ih]
    cases name == entry.1 <;> rfl

/-! ## The grid -/

def cellAt (grid : FrameGrid) (place : Nat × Nat) : Region :=
  cell grid place.1 place.2

theorem addCells_of_fits {row column : Nat} {names : List (Option String)}
    (fits : column + names.length ≤ grid.columns.toNat) (t : FrameTable) :
    addCells grid row t column names =
      .ok (t.insertAll ((rowCells row column names).map fun c => (c.1, cellAt grid c.2))) := by
  induction names generalizing t column with
  | nil => rfl
  | cons name names ih =>
    rw [List.length_cons] at fits
    unfold addCells
    rw [if_neg (by omega)]
    cases name with
    | none => exact ih (by omega) t
    | some name => exact ih (by omega) (t.insert name (cell grid column row))

theorem addCells_of_wide {row column : Nat} {names : List (Option String)}
    (start : column ≤ grid.columns.toNat) (wide : grid.columns.toNat < column + names.length)
    (t : FrameTable) :
    ∃ fault, addCells grid row t column names = .error (.frameMismatch fault) := by
  induction names generalizing t column with
  | nil =>
    rw [List.length_nil] at wide
    omega
  | cons name names ih =>
    rw [List.length_cons] at wide
    unfold addCells
    by_cases full : grid.columns.toNat ≤ column
    · exact ⟨_, if_pos full⟩
    · rw [if_neg full]
      exact ih (by omega) (by omega) _

theorem namedCells_cons (row : Nat) (names : List (Option String))
    (rest : List (List (Option String))) :
    namedCells row (names :: rest) = rowCells row 0 names ++ namedCells (row + 1) rest := rfl

theorem addRows_of_fits {row : Nat} {names : List (List (Option String))}
    (fits : row + names.length ≤ grid.rows.toNat)
    (narrow : ∀ cells ∈ names, cells.length ≤ grid.columns.toNat) (t : FrameTable) :
    addRows grid t row names =
      .ok (t.insertAll ((namedCells row names).map fun c => (c.1, cellAt grid c.2))) := by
  induction names generalizing t row with
  | nil => rfl
  | cons cells rest ih =>
    rw [List.length_cons] at fits
    have first : 0 + cells.length ≤ grid.columns.toNat := by
      rw [Nat.zero_add]
      exact narrow cells List.mem_cons_self
    unfold addRows
    rw [if_neg (by omega), addCells_of_fits first, namedCells_cons, List.map_append,
      insertAll_append]
    exact ih (by omega) (fun others mem => narrow others (List.mem_cons_of_mem cells mem)) _

theorem addRows_of_misfit {row : Nat} {names : List (List (Option String))}
    (start : row ≤ grid.rows.toNat)
    (misfit : ¬ (row + names.length ≤ grid.rows.toNat ∧
      ∀ cells ∈ names, cells.length ≤ grid.columns.toNat)) (t : FrameTable) :
    ∃ fault, addRows grid t row names = .error (.frameMismatch fault) := by
  induction names generalizing t row with
  | nil => exact absurd ⟨start, List.forall_mem_nil _⟩ misfit
  | cons cells rest ih =>
    unfold addRows
    by_cases full : grid.rows.toNat ≤ row
    · exact ⟨_, if_pos full⟩
    · rw [if_neg full]
      by_cases narrow : cells.length ≤ grid.columns.toNat
      · rw [addCells_of_fits (by omega)]
        refine ih (by omega) (fun fits => misfit ⟨?_, List.forall_mem_cons.2 ⟨narrow, fits.2⟩⟩) _
        rw [List.length_cons]
        omega
      · have wide : grid.columns.toNat < 0 + cells.length := by omega
        obtain ⟨fault, failed⟩ := addCells_of_wide (Nat.zero_le _) wide t
        rw [failed]
        exact ⟨fault, rfl⟩

theorem namesFit_iff : grid.NamesFit ↔ grid.names.length ≤ grid.rows.toNat ∧
    ∀ cells ∈ grid.names, cells.length ≤ grid.columns.toNat := by
  have bounded : ∀ {n m : Nat}, (∀ i < n, i < m) ↔ n ≤ m := by
    intro n m
    constructor
    · intro h
      exact Nat.le_of_not_lt fun lt => Nat.lt_irrefl m (h m lt)
    · intro h i hi
      exact Nat.lt_of_lt_of_le hi h
  unfold FrameGrid.NamesFit
  simp only [bounded]

/-! ## The rectangles -/

def between (c : Corners) : Region :=
  ⟨c.left, c.top, c.right - c.left, c.bottom - c.top⟩

theorem addRects_of_ordered {rects : List (String × Corners)}
    (ordered : ∀ e ∈ rects, e.2.left ≤ e.2.right ∧ e.2.top ≤ e.2.bottom) (t : FrameTable) :
    t.addRects rects = .ok (t.insertAll (rects.map fun e => (e.1, between e.2))) := by
  induction rects generalizing t with
  | nil => rfl
  | cons e rest ih =>
    obtain ⟨first, others⟩ := List.forall_mem_cons.1 ordered
    unfold addRects Region.ofCorners?
    rw [if_pos first]
    exact ih others _

theorem addRects_of_inverted {rects : List (String × Corners)}
    (inverted : ¬ ∀ e ∈ rects, e.2.left ≤ e.2.right ∧ e.2.top ≤ e.2.bottom) (t : FrameTable) :
    ∃ fault, t.addRects rects = .error (.frameMismatch fault) := by
  induction rects generalizing t with
  | nil => exact absurd (List.forall_mem_nil _) inverted
  | cons e rest ih =>
    unfold addRects Region.ofCorners?
    by_cases first : e.2.left ≤ e.2.right ∧ e.2.top ≤ e.2.bottom
    · rw [if_pos first]
      exact ih (fun others => inverted (List.forall_mem_cons.2 ⟨first, others⟩)) _
    · rw [if_neg first]
      exact ⟨_, rfl⟩

/-- A map lists each of its keys once, so the last entry for a key is the only one. -/
theorem lookup_reverse_toList (rects : Std.TreeMap String Corners) (name : String) :
    rects.toList.reverse.lookup name = rects[name]? := by
  cases found : rects.toList.reverse.lookup name with
  | some c =>
    obtain ⟨front, back, split, -⟩ := List.lookup_eq_some_iff.1 found
    have mem : (name, c) ∈ rects.toList := by
      rw [← List.mem_reverse, split]
      exact List.mem_append_right front List.mem_cons_self
    exact (Std.TreeMap.mem_toList_iff_getElem?_eq_some.1 mem).symm
  | none =>
    cases declared : rects[name]? with
    | none => rfl
    | some c =>
      have mem : (name, c) ∈ rects.toList.reverse :=
        List.mem_reverse.2 (Std.TreeMap.mem_toList_iff_getElem?_eq_some.2 declared)
      simpa using List.lookup_eq_none_iff.1 found (name, c) mem

/-! ## Before the further names -/

variable {a : Atlas}

def gridTable (a : Atlas) : Except Error FrameTable :=
  match a.grid with
  | none => .ok empty
  | some grid => addRows grid empty 0 grid.names

theorem build_eq (a : Atlas) :
    build a = (do
      let t ← gridTable a
      let t ← t.addRects a.rectMap.toList
      t.addAliases a.aliasList) := by
  unfold build gridTable
  cases a.grid <;> rfl

def gridEntries (a : Atlas) : List (String × Region) :=
  a.grid.elim [] fun grid => (namedCells 0 grid.names).map fun c => (c.1, cellAt grid c.2)

theorem gridTable_of_fits (h : ∀ grid, a.grid = some grid → grid.NamesFit) :
    gridTable a = .ok (empty.insertAll (gridEntries a)) := by
  unfold gridTable gridEntries
  cases hgrid : a.grid with
  | none => rfl
  | some grid =>
    obtain ⟨fits, narrow⟩ := namesFit_iff.1 (h grid hgrid)
    exact addRows_of_fits (by omega) narrow empty

theorem gridTable_of_misfit (h : ¬ ∀ grid, a.grid = some grid → grid.NamesFit) :
    ∃ fault, gridTable a = .error (.frameMismatch fault) := by
  unfold gridTable
  cases hgrid : a.grid with
  | none => exact absurd (fun grid declared => nomatch hgrid.symm.trans declared) h
  | some grid =>
    refine addRows_of_misfit (Nat.zero_le _) (fun fits => h fun other heq => ?_) empty
    cases hgrid.symm.trans heq
    exact namesFit_iff.2 ⟨by omega, fits.2⟩

theorem lookup_gridEntries (a : Atlas) (name : String) :
    (gridEntries a).reverse.lookup name =
      a.grid.bind fun grid => (grid.lastCell? name).map fun place => cellAt grid place := by
  unfold gridEntries
  cases a.grid with
  | none => rfl
  | some grid =>
    show ((namedCells 0 grid.names).map _).reverse.lookup name = _
    rw [← List.map_reverse, lookup_map]
    rfl

def rectEntries (a : Atlas) : List (String × Region) :=
  a.rectMap.toList.map fun e => (e.1, between e.2)

theorem lookup_rectEntries (a : Atlas) (name : String) :
    (rectEntries a).reverse.lookup name = a.rectMap[name]?.map between := by
  unfold rectEntries
  rw [← List.map_reverse, lookup_map, lookup_reverse_toList]

theorem forall_mem_rectMap :
    (∀ (name : String) (c : Corners), a.rectMap[name]? = some c →
        c.left ≤ c.right ∧ c.top ≤ c.bottom) ↔
      ∀ e ∈ a.rectMap.toList, e.2.left ≤ e.2.right ∧ e.2.top ≤ e.2.bottom := by
  simp only [← Std.TreeMap.mem_toList_iff_getElem?_eq_some, Prod.forall]

/-- **Declarations that do not contradict themselves** lead to a table in which each name has its
region without the further names; only these can fail. -/
theorem build_of_consistent (h : a.Consistent) :
    ∃ t : FrameTable, (∀ name, t.get? name = a.base? name) ∧
      build a = t.addAliases a.aliasList := by
  refine ⟨(empty.insertAll (gridEntries a)).insertAll (rectEntries a), fun name => ?_, ?_⟩
  · rw [get?_insertAll, get?_insertAll, lookup_rectEntries, lookup_gridEntries, get?_empty,
      Option.or_none]
    unfold Atlas.base?
    cases declared : a.rectMap[name]? with
    | none => rfl
    | some c => exact (if_pos (h.2 name c declared)).symm
  · rw [build_eq, gridTable_of_fits h.1]
    show (do let t ← FrameTable.addRects _ a.rectMap.toList; t.addAliases a.aliasList) = _
    rw [addRects_of_ordered (forall_mem_rectMap.1 h.2)]
    rfl

theorem build_of_inconsistent (h : ¬ a.Consistent) :
    ∃ fault, build a = .error (.frameMismatch fault) := by
  rw [build_eq]
  by_cases fits : ∀ grid, a.grid = some grid → grid.NamesFit
  · have inverted := mt forall_mem_rectMap.2 fun ordered => h ⟨fits, ordered⟩
    obtain ⟨fault, failed⟩ := addRects_of_inverted inverted (empty.insertAll (gridEntries a))
    refine ⟨fault, ?_⟩
    rw [gridTable_of_fits fits]
    show (do let t ← FrameTable.addRects _ a.rectMap.toList; t.addAliases a.aliasList) = _
    rw [failed]
    rfl
  · obtain ⟨fault, failed⟩ := gridTable_of_misfit fits
    refine ⟨fault, ?_⟩
    rw [failed]
    rfl

/-! ## The further names -/

section Step

variable {t : FrameTable} {k : Nat} {further target : String} {rest : List (String × String)}

/-- A table that leads every name where the first `k` further names do. -/
def AgreesAt (t : FrameTable) (a : Atlas) (k : Nat) : Prop :=
  ∀ name, t.get? name = a.resolve? k name

theorem AgreesAt.addAliases_of_missing (agrees : t.AgreesAt a k)
    (missing : a.resolve? k target = none) :
    t.addAliases ((further, target) :: rest) = .error (.frameNotFound target) := by
  rw [addAliases, require, agrees, missing]
  rfl

theorem AgreesAt.addAliases_of_found {region : Region} (agrees : t.AgreesAt a k)
    (found : a.resolve? k target = some region) :
    t.addAliases ((further, target) :: rest) = (t.insert further region).addAliases rest := by
  rw [addAliases, require, agrees, found]
  rfl

/-- **One further name.** -/
theorem AgreesAt.insert {region : Region} (agrees : t.AgreesAt a k)
    (here : a.aliasList[k]? = some (further, target))
    (found : a.resolve? k target = some region) : (t.insert further region).AgreesAt a (k + 1) := by
  intro name
  rw [get?_insert, agrees, Atlas.resolve?_succ here, found]

end Step

/-- **The forward map is the backward definition.** A table that agrees with `resolve? k` takes in
the other further names until one of them does not find its target. -/
theorem addAliases_cases {t : FrameTable} {k : Nat} {rest : List (String × String)}
    (agrees : t.AgreesAt a k) (left : a.aliasList.drop k = rest) :
    (∃ t', t.addAliases rest = .ok t' ∧ (∀ j ≥ k, a.Finds j) ∧
      t'.AgreesAt a (k + rest.length)) ∨
    ∃ j ≥ k, ∃ further target, a.aliasList[j]? = some (further, target) ∧
      a.resolve? j target = none ∧ (∀ i ≥ k, i < j → a.Finds i) ∧
      t.addAliases rest = .error (.frameNotFound target) := by
  -- the table grows with every name that finds its target, and `k` counts these names
  induction rest generalizing t k with
  | nil =>
    refine .inl ⟨t, rfl, fun j hj further target declared => ?_, agrees⟩
    have none : a.aliasList[j]? = none :=
      List.getElem?_eq_none (Nat.le_trans (List.drop_eq_nil_iff.1 left) hj)
    cases none.symm.trans declared
  | cons e rest ih =>
    obtain ⟨further, target⟩ := e
    have here : a.aliasList[k]? = some (further, target) := by rw [← List.head?_drop, left]; rfl
    have after : a.aliasList.drop (k + 1) = rest := by rw [← List.tail_drop, left]; rfl
    cases found : a.resolve? k target with
    | none =>
      exact .inr ⟨k, Nat.le_refl k, further, target, here, found, fun i hi lt => by omega,
        agrees.addAliases_of_missing found⟩
    | some region =>
      -- the first name has found its target, so that the rest decides
      have upTo := @Atlas.finds_from_of_succ a k (Atlas.finds_of_eq_some here found)
      have total : k + 1 + rest.length = k + ((further, target) :: rest).length := by
        rw [List.length_cons]
        omega
      rw [agrees.addAliases_of_found found, ← total]
      rcases ih (agrees.insert here found) after with
        ⟨t', ok, all, get⟩ | ⟨j, hj, f, s, declared, missing, before, failed⟩
      · refine .inl ⟨t', ok, fun j hj => ?_, get⟩
        exact upTo (fun i hi _ => all i hi) j hj (Nat.lt_succ_self j)
      · exact .inr ⟨j, by omega, f, s, declared, missing, upTo before, failed⟩

theorem build_cases (a : Atlas) :
    (¬ a.Consistent ∧ ∃ fault, build a = .error (.frameMismatch fault)) ∨
    (a.Consistent ∧ (∀ j, a.Finds j) ∧ ∃ t, build a = .ok t ∧
      ∀ name, t.get? name = a.resolve? a.aliasList.length name) ∨
    (a.Consistent ∧ ∃ j further target, a.aliasList[j]? = some (further, target) ∧
      a.resolve? j target = none ∧ (∀ i < j, a.Finds i) ∧
      build a = .error (.frameNotFound target)) := by
  by_cases consistent : a.Consistent
  · obtain ⟨t, agrees, heq⟩ := build_of_consistent consistent
    right
    rw [heq]
    rcases addAliases_cases (k := 0) agrees List.drop_zero with
      ⟨t', ok, all, get⟩ | ⟨j, -, further, target, declared, missing, before, failed⟩
    · rw [Nat.zero_add] at get
      exact .inl ⟨consistent, fun j => all j (Nat.zero_le j), t', ok, get⟩
    · exact .inr ⟨consistent, j, further, target, declared, missing,
        fun i lt => before i (Nat.zero_le i) lt, failed⟩
  · exact .inl ⟨consistent, build_of_inconsistent consistent⟩

/-- **A table leads every name where reading the declarations from the back does.** -/
theorem build_eq_resolve (a : Atlas) :
    a.BasedOn a.base? ∧ a.ResolvedBy a.resolve? ∧
    ((∃ t, build a = .ok t) ↔ a.Consistent ∧ ∀ j, a.Finds j) ∧
    (∀ t, build a = .ok t →
      (∀ name, t.get? name = a.resolve? a.aliasList.length name) ∧
      ∀ e ∈ t.entries, a.resolve? a.aliasList.length e.1 = some e.2) ∧
    (¬ a.Consistent → ∃ fault, build a = .error (.frameMismatch fault)) ∧
    ∀ j further target, a.Consistent → a.aliasList[j]? = some (further, target) →
      a.resolve? j target = none → (∀ i < j, a.Finds i) →
        build a = .error (.frameNotFound target) := by
  refine ⟨a.basedOn_base?, a.resolvedBy_resolve?, ⟨?_, ?_⟩, ?_, build_of_inconsistent, ?_⟩
  · rintro ⟨t, ok⟩
    rcases build_cases a with
      ⟨-, fault, failed⟩ | ⟨consistent, all, -⟩ | ⟨-, _, _, _, -, -, -, failed⟩
    · cases ok.symm.trans failed
    · exact ⟨consistent, all⟩
    · cases ok.symm.trans failed
  · rintro ⟨consistent, all⟩
    rcases build_cases a with
      ⟨contradicts, -⟩ | ⟨-, -, t, ok, -⟩ | ⟨-, j, _, _, declared, missing, -⟩
    · exact absurd consistent contradicts
    · exact ⟨t, ok⟩
    · exact absurd (all j) (Atlas.not_finds declared missing)
  · intro t ok
    rcases build_cases a with
      ⟨-, fault, failed⟩ | ⟨-, -, t', ok', get⟩ | ⟨-, _, _, _, -, -, -, failed⟩
    · cases ok.symm.trans failed
    · cases ok.symm.trans ok'
      refine ⟨get, fun e mem => ?_⟩
      rw [← get]
      exact Std.TreeMap.mem_toList_iff_getElem?_eq_some.1 mem
    · cases ok.symm.trans failed
  · intro j further target consistent declared missing before
    rcases build_cases a with
      ⟨contradicts, -⟩ | ⟨-, all, -⟩ | ⟨-, i, _, _, declared', missing', before', failed⟩
    · exact absurd consistent contradicts
    · exact absurd (all j) (Atlas.not_finds declared missing)
    · -- both are the first that does not find its target
      rcases Nat.lt_trichotomy i j with lt | rfl | gt
      · exact absurd (before i lt) (Atlas.not_finds declared' missing')
      · cases declared.symm.trans declared'
        exact failed
      · exact absurd (before' j gt) (Atlas.not_finds declared missing)

/-- Two cells of one name, and a row so far down that its place is capped. -/
def shelf : FrameGrid :=
  ⟨8, 0xffffffff, 3, 3, [[some "a", some "b", some "a"], [], [none, some "far"]]⟩

/-- A rectangle takes `far` off the grid. The name `b` is taken by a further name for `a`, and `c`
follows it; `d` was declared before and keeps the cell. -/
def cupboard : Atlas :=
  ((((Atlas.ofGrid shelf).addRect "far" ⟨1, 2, 4, 8⟩).addAlias "d" "b").addAlias "b" "a").addAlias
    "c" "b"

theorem build_eq_resolve_cupboard :
    (∃ t, build cupboard = .ok t ∧
      t.entries = [("a", ⟨16, 0, 8, 0xffffffff⟩), ("b", ⟨16, 0, 8, 0xffffffff⟩),
        ("c", ⟨16, 0, 8, 0xffffffff⟩), ("d", ⟨8, 0, 8, 0xffffffff⟩), ("far", ⟨1, 2, 3, 6⟩)] ∧
      cupboard.resolve? 3 "d" = some ⟨8, 0, 8, 0xffffffff⟩ ∧
      ∀ name, t.get? name = cupboard.resolve? 3 name) ∧
    (∃ r, (Atlas.ofGrid shelf).base? "far" = some r ∧ r.x.toNat = 8 ∧ r.y.toNat = 2 ^ 32 - 1) ∧
    build ((Atlas.ofGrid shelf).addAlias "e" "lost") = .error (.frameNotFound "lost") := by
  have run : (build cupboard).toOption.map entries =
      some [("a", ⟨16, 0, 8, 0xffffffff⟩), ("b", ⟨16, 0, 8, 0xffffffff⟩),
        ("c", ⟨16, 0, 8, 0xffffffff⟩), ("d", ⟨8, 0, 8, 0xffffffff⟩), ("far", ⟨1, 2, 3, 6⟩)] := by
    decide +kernel
  obtain ⟨t, built, entries⟩ := Option.map_eq_some_iff.1 run
  replace built := Error.eq_ok_of_toOption built
  have fits : (build (Atlas.ofGrid shelf)).toOption.isSome := by decide +kernel
  obtain ⟨plain, grid_built⟩ := Option.isSome_iff_exists.1 fits
  obtain ⟨-, -, -, found, -⟩ := build_eq_resolve cupboard
  obtain ⟨based, -, built_iff, -⟩ := build_eq_resolve (Atlas.ofGrid shelf)
  obtain ⟨-, -, -, -, -, lost⟩ := build_eq_resolve ((Atlas.ofGrid shelf).addAlias "e" "lost")
  refine ⟨⟨t, built, entries, by decide +kernel, (found t built).1⟩, ?_, ?_⟩
  · have last : shelf.IsLast "far" (1, 2) := FrameGrid.lastCell?_eq_some_iff.1 (by decide +kernel)
    obtain ⟨r, here, left, top, -⟩ := based.cell "far" shelf 1 2 (by decide +kernel) rfl last
    exact ⟨r, here, left.trans (by decide), top.trans (by decide)⟩
  · have consistent := (built_iff.1 ⟨plain, Error.eq_ok_of_toOption grid_built⟩).1
    exact lost 0 "e" "lost" consistent rfl (by decide +kernel) nofun

end FrameTable

end Paperdoll
