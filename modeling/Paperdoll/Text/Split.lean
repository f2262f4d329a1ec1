/-!
# Cutting a text at a separator

**`pieces`** cuts at every occurrence of a separator and keeps empty pieces, so there is
always at least one; **`cutOnce`** cuts at the first occurrence only. Both are the list
operations of the same meaning, read through the characters of the text.
-/

namespace Paperdoll.Text

/-- The texts between the occurrences of `separator`, empty ones included. -/
def pieces (separator : Char) (s : String) : List String :=
  (s.toList.splitOn separator).map String.ofList

/-- The characters before and after the first occurrence of `separator`. -/
def cutOnceChars (separator : Char) : List Char → Option (List Char × List Char)
  | [] => none
  | c :: cs =>
    if c = separator then some ([], cs)
    else (cutOnceChars separator cs).map fun cut => (c :: cut.1, cut.2)

def cutOnce (separator : Char) (s : String) : Option (String × String) :=
  (cutOnceChars separator s.toList).map fun cut => (String.ofList cut.1, String.ofList cut.2)

theorem cutOnceChars_eq_none {separator : Char} {cs : List Char} :
    cutOnceChars separator cs = none ↔ separator ∉ cs := by
  induction cs with
  | nil => simp [cutOnceChars]
  | cons c cs ih =>
    by_cases h : c = separator
    · simp [cutOnceChars, h]
    · simp [cutOnceChars, h, ih, Ne.symm h]

theorem cutOnceChars_append {separator : Char} {before : List Char} (h : separator ∉ before)
    (after : List Char) :
    cutOnceChars separator (before ++ separator :: after) = some (before, after) := by
  induction before with
  | nil => simp [cutOnceChars]
  | cons c cs ih =>
    have hc : c ≠ separator := fun e => h (by simp [e])
    simp_all [cutOnceChars]

theorem eq_append_of_cutOnceChars {separator : Char} {cs before after : List Char}
    (h : cutOnceChars separator cs = some (before, after)) :
    cs = before ++ separator :: after ∧ separator ∉ before := by
  induction cs generalizing before with
  | nil => cases h
  | cons c cs ih =>
    unfold cutOnceChars at h
    split at h
    next heq =>
      cases h
      exact ⟨by rw [heq, List.nil_append], List.not_mem_nil⟩
    next hne =>
      obtain ⟨⟨front, back⟩, hcut, heq⟩ := Option.map_eq_some_iff.1 h
      cases heq
      obtain ⟨rfl, fresh⟩ := ih hcut
      exact ⟨rfl, by simp [Ne.symm hne, fresh]⟩

theorem cutOnce_eq_none {separator : Char} {s : String} :
    cutOnce separator s = none ↔ separator ∉ s.toList := by
  rw [cutOnce, Option.map_eq_none_iff, cutOnceChars_eq_none]

theorem toList_of_cutOnce {separator : Char} {s before after : String}
    (h : cutOnce separator s = some (before, after)) :
    s.toList = before.toList ++ separator :: after.toList ∧ separator ∉ before.toList := by
  obtain ⟨⟨front, back⟩, hcut, heq⟩ := Option.map_eq_some_iff.1 h
  cases heq
  rw [String.toList_ofList, String.toList_ofList]
  exact eq_append_of_cutOnceChars hcut

theorem takeWhile_of_cutOnce {separator : Char} {s before after : String}
    (h : cutOnce separator s = some (before, after)) :
    s.toList.takeWhile (· != separator) = before.toList := by
  obtain ⟨heq, fresh⟩ := toList_of_cutOnce h
  rw [heq, List.takeWhile_append_of_pos fun c mem => by
    simpa using fun same : c = separator => fresh (same ▸ mem)]
  simp

theorem dropWhile_of_cutOnce {separator : Char} {s before after : String}
    (h : cutOnce separator s = some (before, after)) :
    s.toList.dropWhile (· != separator) = separator :: after.toList := by
  obtain ⟨heq, fresh⟩ := toList_of_cutOnce h
  rw [heq, List.dropWhile_append_of_pos fun c mem => by
    simpa using fun same : c = separator => fresh (same ▸ mem)]
  simp

/-! ## Pieces -/

/-- No piece contains a separator, and no piece brings in anything new. -/
theorem mem_splitOnP {isSeparator : Char → Bool} {cs piece : List Char}
    (h : piece ∈ cs.splitOnP isSeparator) : ∀ c ∈ piece, isSeparator c = false ∧ c ∈ cs := by
  induction cs generalizing piece with
  | nil =>
    rw [List.splitOnP_nil, List.mem_singleton] at h
    subst h
    intro c mem
    cases mem
  | cons first cs ih =>
    have wider : ∀ {piece}, piece ∈ cs.splitOnP isSeparator →
        ∀ c ∈ piece, isSeparator c = false ∧ c ∈ first :: cs := fun mem c hc =>
      ⟨(ih mem c hc).1, List.mem_cons_of_mem first (ih mem c hc).2⟩
    rw [List.splitOnP_cons_eq_if_modifyHead] at h
    by_cases separates : isSeparator first
    · rw [if_pos separates] at h
      rcases List.mem_cons.1 h with rfl | mem
      · intro c mem
        cases mem
      · exact wider mem
    · rw [if_neg separates] at h
      cases pieces : cs.splitOnP isSeparator with
      | nil => exact absurd pieces (List.splitOnP_ne_nil isSeparator cs)
      | cons head tail =>
        rw [pieces, List.modifyHead_cons] at h
        rcases List.mem_cons.1 h with rfl | mem
        · intro c hc
          rcases List.mem_cons.1 hc with rfl | mem
          · exact ⟨by simpa using separates, List.mem_cons_self⟩
          · exact wider (pieces ▸ List.mem_cons_self) c mem
        · exact wider (pieces ▸ List.mem_cons_of_mem head mem)

theorem exists_mem_splitOnP {isSeparator : Char → Bool} {cs : List Char} {c : Char} (h : c ∈ cs)
    (kept : isSeparator c = false) : ∃ piece ∈ cs.splitOnP isSeparator, c ∈ piece := by
  induction cs with
  | nil => cases h
  | cons first cs ih =>
    rw [List.splitOnP_cons_eq_if_modifyHead]
    by_cases separates : isSeparator first
    · rw [if_pos separates]
      rcases List.mem_cons.1 h with rfl | mem
      · rw [kept] at separates
        cases separates
      · obtain ⟨piece, hpiece, hc⟩ := ih mem
        exact ⟨piece, List.mem_cons_of_mem _ hpiece, hc⟩
    · rw [if_neg separates]
      cases pieces : cs.splitOnP isSeparator with
      | nil => exact absurd pieces (List.splitOnP_ne_nil isSeparator cs)
      | cons head tail =>
        rw [List.modifyHead_cons]
        rcases List.mem_cons.1 h with rfl | mem
        · exact ⟨c :: head, List.mem_cons_self, List.mem_cons_self⟩
        · obtain ⟨piece, hpiece, hc⟩ := ih mem
          rw [pieces] at hpiece
          rcases List.mem_cons.1 hpiece with rfl | hpiece
          · exact ⟨first :: piece, List.mem_cons_self, List.mem_cons_of_mem first hc⟩
          · exact ⟨piece, List.mem_cons_of_mem _ hpiece, hc⟩

theorem mem_splitOn {separator : Char} {cs piece : List Char}
    (h : piece ∈ cs.splitOn separator) : separator ∉ piece ∧ ∀ c ∈ piece, c ∈ cs := by
  rw [List.splitOn_eq_splitOnP] at h
  refine ⟨fun mem => ?_, fun c mem => (mem_splitOnP h c mem).2⟩
  simpa using (mem_splitOnP h separator mem).1

theorem mem_pieces {separator : Char} {s piece : String} (h : piece ∈ pieces separator s) :
    separator ∉ piece.toList ∧ ∀ c ∈ piece.toList, c ∈ s.toList := by
  obtain ⟨cs, hcs, rfl⟩ := List.mem_map.1 h
  rw [String.toList_ofList]
  exact mem_splitOn hcs

theorem splitOn_append_flatMap {separator : Char} {first : List Char} {rest : List (List Char)}
    (hfirst : separator ∉ first) (hrest : ∀ cs ∈ rest, separator ∉ cs) :
    (first ++ rest.flatMap (separator :: ·)).splitOn separator = first :: rest := by
  induction rest generalizing first with
  | nil => rw [List.flatMap_nil, List.append_nil, List.splitOn_eq_singleton hfirst]
  | cons second rest ih =>
    rw [List.flatMap_cons, List.cons_append, List.splitOn_append_cons_self_of_not_mem hfirst,
      ih (hrest second List.mem_cons_self) fun cs mem => hrest cs (List.mem_cons_of_mem second mem)]

end Paperdoll.Text
