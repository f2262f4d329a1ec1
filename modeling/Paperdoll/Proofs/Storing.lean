import Mathlib.Data.List.Basic
import Mathlib.Data.List.Induction
import Paperdoll.Proofs.Confinement

/-!
# Stores: many spellings, one asset

A path has many spellings, and every call on a store normalizes the path it is given on its own. So
an asset that was put in through one spelling must be found, replaced and removed through any other.

**Theorem (`performAll_read`).** Take an empty store and run any calls on it, those with invalid
paths included. A path is read as invalid exactly if it has no normal form. Otherwise what is read
is what was stored last under a path of the same normal form, unless one of these has been removed
since, and if there is no such content it is not found. A store has a path exactly if it can be
read; a call hands over what could be read before at the path it is given; the size is the number of
normal forms under which something stands; and a call with an invalid path changes nothing.

What stands under a normal form is defined by the calls alone (`Standing`). One call writes to the
normal form of its path and to no other (`getElem?_perform_self`, `getElem?_perform_of_ne`); from
this the map agrees with the calls by induction on the run, from its end (`getElem?_ofRequests`).
-/

namespace Paperdoll

theorem Asset.normalize_cases (path : String) :
    normalize path = .error (.invalidPath path) ∨ ∃ key, normalize path = .ok key := by
  rcases leads_cases path with ⟨-, invalid⟩ | leads
  · exact .inl invalid.normalize
  · exact .inr ⟨_, leads.normalize⟩

namespace AssetStore

/-! ## Calls -/

/-- A call that changes a store. -/
inductive Request (α : Type)
  | insert (path : String) (content : α)
  | remove (path : String)

variable {α : Type}

def Request.path : Request α → String
  | insert path _ => path
  | remove path => path

/-- What a call leaves at its path. -/
def Request.content? : Request α → Option α
  | insert _ content => some content
  | remove _ => none

/-- What a call hands over, and the store that it leaves behind. -/
def perform (s : AssetStore α) : Request α → Option α × AssetStore α
  | .insert path content => s.exchange path content
  | .remove path => s.take path

def performAll (s : AssetStore α) (rs : List (Request α)) : AssetStore α :=
  rs.foldl (fun s r => (s.perform r).2) s

def ofRequests (rs : List (Request α)) : AssetStore α :=
  empty.performAll rs

/-- The content was the last one to be stored under the normal form, and nothing has been removed
there since. -/
def Standing (rs : List (Request α)) (key : String) (content : α) : Prop :=
  ∃ before path after, rs = before ++ .insert path content :: after ∧
    Asset.normalize path = .ok key ∧ ∀ later ∈ after, Asset.normalize later.path ≠ .ok key

variable {s : AssetStore α} {r : Request α} {rs : List (Request α)} {path key : String}
  {content : α}

/-! ## One call -/

theorem perform_of_ok (h : Asset.normalize r.path = .ok key) :
    (s.perform r).1 = s.map[key]? ∧
      (s.perform r).2.map = match r.content? with
        | some content => s.map.insert key content
        | none => s.map.erase key := by
  cases r with
  | insert path content =>
    have valid : Asset.normalize path = .ok key := h
    simp only [perform, exchange, valid, Request.content?, and_self]
  | remove path =>
    have valid : Asset.normalize path = .ok key := h
    simp only [perform, take, valid, Request.content?, and_self]

theorem perform_of_invalid (h : ∀ key, Asset.normalize r.path ≠ .ok key) :
    s.perform r = (none, s) := by
  have refused := (Asset.normalize_cases r.path).resolve_right fun ⟨key, valid⟩ => h key valid
  cases r with
  | insert path content =>
    have invalid : Asset.normalize path = .error (.invalidPath path) := refused
    simp only [perform, exchange, invalid]
  | remove path =>
    have invalid : Asset.normalize path = .error (.invalidPath path) := refused
    simp only [perform, take, invalid]

/-- **A call leaves its content** under the normal form of its path, through whatever spelling. -/
theorem getElem?_perform_self (h : Asset.normalize r.path = .ok key) :
    (s.perform r).2.map[key]? = r.content? := by
  rw [(perform_of_ok h).2]
  cases r.content? with
  | some content => exact Std.TreeMap.getElem?_insert_self
  | none => exact Std.TreeMap.getElem?_erase_self

/-- **A call leaves everything else as it was.** -/
theorem getElem?_perform_of_ne (h : Asset.normalize r.path ≠ .ok key) :
    (s.perform r).2.map[key]? = s.map[key]? := by
  rcases Asset.normalize_cases r.path with invalid | ⟨written, valid⟩
  · rw [perform_of_invalid fun key valid => by rw [invalid] at valid; cases valid]
  · have other : written ≠ key := by
      rintro rfl
      exact h valid
    rw [(perform_of_ok valid).2]
    cases r.content? with
    | some content =>
      rw [Std.TreeMap.getElem?_insert, if_neg]
      rwa [Std.compare_eq_iff_eq]
    | none =>
      rw [Std.TreeMap.getElem?_erase, if_neg]
      rwa [Std.compare_eq_iff_eq]

/-! ## A run of calls -/

theorem ofRequests_concat (rs : List (Request α)) (r : Request α) :
    ofRequests (rs ++ [r]) = ((ofRequests rs).perform r).2 := by
  simp only [ofRequests, performAll, List.foldl_append, List.foldl_cons, List.foldl_nil]

/-- A list with one more member, cut at a member: that is the last one, or there is a last one
behind it. -/
theorem concat_eq_split {β : Type} {l before after : List β} {a b : β}
    (h : l ++ [b] = before ++ a :: after) :
    after = [] ∧ a = b ∨ ∃ rest, after = rest ++ [b] ∧ l = before ++ a :: rest := by
  rcases List.eq_nil_or_concat' after with rfl | ⟨rest, last, rfl⟩
  · obtain ⟨-, same⟩ := List.append_inj' h rfl
    exact .inl ⟨rfl, (List.singleton_inj.1 same).symm⟩
  · rw [← List.cons_append, ← List.append_assoc] at h
    obtain ⟨front, same⟩ := List.append_inj' h rfl
    exact .inr ⟨rest, by rw [List.singleton_inj.1 same], front⟩

theorem standing_concat_self (h : Asset.normalize r.path = .ok key) :
    Standing (rs ++ [r]) key content ↔ r.content? = some content := by
  constructor
  · rintro ⟨before, path, after, split, valid, untouched⟩
    rcases concat_eq_split split with ⟨-, rfl⟩ | ⟨rest, rfl, -⟩
    · rfl
    · exact absurd h (untouched r (List.mem_append_right _ List.mem_cons_self))
  · intro stored
    cases r with
    | insert path content' =>
      cases stored
      exact ⟨rs, path, [], rfl, h, fun later mem => absurd mem List.not_mem_nil⟩
    | remove path => cases stored

theorem standing_concat_of_ne (h : Asset.normalize r.path ≠ .ok key) :
    Standing (rs ++ [r]) key content ↔ Standing rs key content := by
  constructor
  · rintro ⟨before, path, after, split, valid, untouched⟩
    rcases concat_eq_split split with ⟨-, rfl⟩ | ⟨rest, rfl, front⟩
    · exact absurd valid h
    · exact ⟨before, path, rest, front, valid,
        fun later mem => untouched later (List.mem_append_left _ mem)⟩
  · rintro ⟨before, path, after, rfl, valid, untouched⟩
    refine ⟨before, path, after ++ [r], by simp, valid, fun later mem => ?_⟩
    rcases List.mem_append.1 mem with mem | mem
    · exact untouched later mem
    · rw [List.mem_singleton.1 mem]
      exact h

/-- **The map holds what stands.** -/
theorem getElem?_ofRequests :
    (ofRequests rs).map[key]? = some content ↔ Standing rs key content := by
  induction rs using List.reverseRecOn with
  | nil =>
    have bare : (empty : AssetStore α).map[key]? = none := Std.TreeMap.getElem?_emptyc
    show (empty : AssetStore α).map[key]? = some content ↔ _
    rw [bare]
    constructor
    · intro h
      cases h
    · rintro ⟨before, path, after, split, -⟩
      simp at split
  | append_singleton rs r ih =>
    rw [ofRequests_concat]
    by_cases here : Asset.normalize r.path = .ok key
    · rw [getElem?_perform_self here, standing_concat_self here]
    · rw [getElem?_perform_of_ne here, standing_concat_of_ne here, ih]

/-! ## Reading -/

theorem read_of_ok (h : Asset.normalize path = .ok key) :
    s.read path = match s.map[key]? with
      | some content => .ok content
      | none => .error (.notFound path) := by
  unfold read
  rw [h]
  rfl

theorem read_of_error {e : AssetError} (h : Asset.normalize path = .error e) :
    s.read path = .error e := by
  unfold read
  rw [h]
  rfl

theorem read_eq_ok : s.read path = .ok content ↔
    ∃ key, Asset.normalize path = .ok key ∧ s.map[key]? = some content := by
  rcases Asset.normalize_cases path with invalid | ⟨key, valid⟩
  · rw [read_of_error invalid, invalid]
    simp
  · simp only [read_of_ok valid, valid, Except.ok.injEq, exists_eq_left']
    cases s.map[key]? <;> simp

theorem read_eq_invalidPath :
    s.read path = .error (.invalidPath path) ↔ ∀ key, Asset.normalize path ≠ .ok key := by
  rcases Asset.normalize_cases path with invalid | ⟨key, valid⟩
  · rw [read_of_error invalid, invalid]
    simp
  · rw [read_of_ok valid, valid]
    cases s.map[key]? <;> simp

theorem read_eq_notFound : s.read path = .error (.notFound path) ↔
    ∃ key, Asset.normalize path = .ok key ∧ s.map[key]? = none := by
  rcases Asset.normalize_cases path with invalid | ⟨key, valid⟩
  · rw [read_of_error invalid, invalid]
    simp
  · simp only [read_of_ok valid, valid, Except.ok.injEq, exists_eq_left']
    cases s.map[key]? <;> simp

theorem has_iff : s.has path ↔ ∃ content, s.read path = .ok content := by
  simp only [read_eq_ok, has, find?, Option.isSome_iff_exists]
  rcases Asset.normalize_cases path with invalid | ⟨key, valid⟩
  · simp [invalid]
  · simp [valid]

/-- **A call hands over what could be read** at its path. -/
theorem fst_perform : (s.perform r).1 = some content ↔ s.read r.path = .ok content := by
  rcases Asset.normalize_cases r.path with invalid | ⟨key, valid⟩
  · have unchanged : s.perform r = (none, s) := perform_of_invalid fun key => by simp [invalid]
    rw [read_of_error invalid, unchanged]
    simp
  · rw [read_of_ok valid, (perform_of_ok valid).1]
    cases s.map[key]? <;> simp

/-- The size counts the normal forms under which something stands. -/
theorem exists_standing_keys (rs : List (Request α)) :
    ∃ keys : List String, keys.Nodup ∧ (∀ key, key ∈ keys ↔ ∃ content, Standing rs key content) ∧
      (ofRequests rs).size = keys.length := by
  refine ⟨(ofRequests rs).map.keys, Std.TreeMap.nodup_keys, fun key => ?_,
    Std.TreeMap.length_keys.symm⟩
  rw [Std.TreeMap.mem_keys, Std.TreeMap.mem_iff_isSome_getElem?, Option.isSome_iff_exists]
  exact exists_congr fun content => getElem?_ofRequests

/-- **A store is a map from normal forms**, whatever the calls and their spellings. -/
theorem performAll_read (rs : List (Request α)) :
    (∀ q, (ofRequests rs).read q = .error (.invalidPath q) ↔ ∀ key, Asset.normalize q ≠ .ok key) ∧
    (∀ q content, (ofRequests rs).read q = .ok content ↔
      ∃ key, Asset.normalize q = .ok key ∧ Standing rs key content) ∧
    (∀ q, (ofRequests rs).read q = .error (.notFound q) ↔
      ∃ key, Asset.normalize q = .ok key ∧ ∀ content, ¬ Standing rs key content) ∧
    (∀ q, (ofRequests rs).has q ↔ ∃ content, (ofRequests rs).read q = .ok content) ∧
    (∀ path content previous, ((ofRequests rs).exchange path content).1 = some previous ↔
      (ofRequests rs).read path = .ok previous) ∧
    (∀ path removed, ((ofRequests rs).take path).1 = some removed ↔
      (ofRequests rs).read path = .ok removed) ∧
    (∃ keys : List String, keys.Nodup ∧
      (∀ key, key ∈ keys ↔ ∃ content, Standing rs key content) ∧
      (ofRequests rs).size = keys.length) ∧
    ∀ path, (∀ key, Asset.normalize path ≠ .ok key) →
      (∀ content, (ofRequests rs).exchange path content = (none, ofRequests rs)) ∧
      (ofRequests rs).take path = (none, ofRequests rs) := by
  refine ⟨fun q => read_eq_invalidPath, fun q content => ?_, fun q => ?_, fun q => has_iff,
    fun path content previous => fst_perform (r := .insert path content),
    fun path removed => fst_perform (r := .remove path), exists_standing_keys rs,
    fun path invalid => ⟨fun content => perform_of_invalid (r := .insert path content) invalid,
      perform_of_invalid (r := .remove path) invalid⟩⟩
  · rw [read_eq_ok]
    exact exists_congr fun key => and_congr_right fun _ => getElem?_ofRequests
  · rw [read_eq_notFound]
    refine exists_congr fun key => and_congr_right fun _ => ?_
    rw [Option.eq_none_iff_forall_ne_some]
    exact forall_congr' fun content => not_congr getElem?_ofRequests

/-- One asset through three spellings, another one removed through a fourth, and a path that
climbs. -/
def mixedSpellings : List (Request Nat) :=
  [.insert "/a/b.png" 1, .insert "c" 2, .insert "a\\./b.png" 3, .insert "a/../c" 4, .remove "//c/"]

theorem performAll_read_mixedSpellings :
    (ofRequests mixedSpellings).read "a//b.png" = .ok 3 ∧
      (∃ key, Asset.normalize "/c" = .ok key ∧ ∀ content, ¬ Standing mixedSpellings key content) ∧
      (ofRequests mixedSpellings).take ".." = (none, ofRequests mixedSpellings) := by
  obtain ⟨invalid, found, missing, -, -, -, -, unchanged⟩ := performAll_read mixedSpellings
  refine ⟨(found _ _).2 ⟨"a/b.png", by decide +kernel, ?_⟩, (missing "/c").1 (by decide +kernel),
    (unchanged ".." ((invalid "..").1 (by decide +kernel))).2⟩
  exact ⟨[.insert "/a/b.png" 1, .insert "c" 2], _, [.insert "a/../c" 4, .remove "//c/"], rfl,
    by decide +kernel, by decide +kernel⟩

end AssetStore

end Paperdoll
