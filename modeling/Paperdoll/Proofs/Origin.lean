import Paperdoll.Proofs.Chain
import Paperdoll.Proofs.Overwriting

/-!
# Origins: where the colors of a recoloring come from

The tables of a directive text feed each other, from the last one to the first, so a color may go a
long way. It still starts and ends at colors that are written in the text.

**Theorem (`apply_origin`).** A recoloring that is read from a text changes a color only if the
color is the source of a pair in one of the `replace` directives of the text. What it makes of any
color is that color itself or the target of such a pair.

The first table that changes a color still meets the color itself, and the last one leaves its
target (`foldr_apply_cases`). What a table holds goes back to one of its arguments, however often
pairs of the same source overwrote each other (`exists_arg_of_get?`).
-/

namespace Paperdoll

namespace Substitution

variable {t : Substitution} {args : List String} {source target : Color}

/-- The argument is a pair `FROM=TO` of texts that denote these colors. -/
def Denotes (arg : String) (source target : Color) : Prop :=
  ∃ written meant : String, arg = written ++ "=" ++ meant ∧
    Color.parse written = .ok source ∧ Color.parse meant = .ok target

theorem IsPair.denotes {arg : String} (h : IsPair arg source target) :
    Denotes arg source target := by
  refine ⟨sourceText arg, targetText arg, ?_, h.source, h.target⟩
  rw [← String.toList_inj, (Text.toList_of_cutOnce (cutOnce_of_mem h.assigns)).1,
    String.toList_append, String.toList_append, List.append_assoc]
  rfl

/-- **Every entry of a table comes from an argument.** -/
theorem exists_arg_of_get? (h : ofArgs args = .ok t) (found : t.get? source = some target) :
    ∃ arg ∈ args, Denotes arg source target := by
  rw [get?_insertArgs h, get?_empty, Option.or_none] at found
  obtain ⟨arg, mem, sent⟩ := List.exists_of_findSome?_eq_some found
  exact ⟨arg, List.mem_reverse.1 mem, (target?_eq_some.1 sent).denotes⟩

/-- **What tables make of a color**, run from the last to the first. -/
theorem foldr_apply_cases (ss : List Substitution) (c : Color) :
    ss.foldr apply c = c ∨
      (∃ s ∈ ss, ∃ target, s.get? c = some target) ∧
        ∃ s ∈ ss, ∃ source, s.get? source = some (ss.foldr apply c) := by
  induction ss with
  | nil => exact .inl rfl
  | cons s rest ih =>
    have later : ∀ {p : Substitution → Prop}, (∃ s ∈ rest, p s) → ∃ s' ∈ s :: rest, p s' :=
      fun ⟨s', mem, hp⟩ => ⟨s', List.mem_cons_of_mem s mem, hp⟩
    have step : ∀ d, s.apply d = (s.get? d).getD d := fun _ => rfl
    rw [List.foldr_cons, step]
    cases found : s.get? (rest.foldr apply c) with
    | none =>
      rw [Option.getD_none]
      exact ih.imp_right fun ⟨touched, made⟩ => ⟨later touched, later made⟩
    | some target =>
      rw [Option.getD_some]
      refine .inr ⟨?_, s, List.mem_cons_self, _, found⟩
      -- the color that this table meets is the first one, or an earlier table met that
      rcases ih with same | ⟨touched, -⟩
      · exact ⟨s, List.mem_cons_self, target, same ▸ found⟩
      · exact later touched

end Substitution

namespace Recoloring

variable {text : String} {ss : List Substitution} {m : Recoloring}

/-- A `replace` directive of the text has a pair that denotes these colors. -/
def HasPair (text : String) (source target : Color) : Prop :=
  ∃ ds, Directive.parseAll text = .ok ds ∧ ∃ d ∈ ds, d.isReplace ∧
    ∃ arg ∈ d.args, Substitution.Denotes arg source target

theorem exists_mem_of_mapM {α β : Type} {f : α → Except Error β} {l : List α} {bs : List β}
    (h : l.mapM f = .ok bs) : ∀ b ∈ bs, ∃ a ∈ l, f a = .ok b := by
  induction l generalizing bs with
  | nil =>
    cases h
    exact fun b mem => absurd mem List.not_mem_nil
  | cons a rest ih =>
    rw [List.mapM_cons] at h
    obtain ⟨first, hfirst, h⟩ := Error.bind_eq_ok.1 h
    obtain ⟨others, hothers, heq⟩ := Error.bind_eq_ok.1 h
    cases heq
    intro b mem
    rcases List.mem_cons.1 mem with rfl | mem
    · exact ⟨a, List.mem_cons_self, hfirst⟩
    · obtain ⟨a', mem', ha'⟩ := ih hothers b mem
      exact ⟨a', List.mem_cons_of_mem a mem', ha'⟩

theorem hasPair_of_chain (h : chain text = .ok ss) {s : Substitution} (mem : s ∈ ss)
    {source target : Color} (found : s.get? source = some target) :
    HasPair text source target := by
  obtain ⟨ds, hds, hss⟩ := Error.bind_eq_ok.1 h
  obtain ⟨d, hd, hs⟩ := exists_mem_of_mapM hss s mem
  obtain ⟨hd, recolors⟩ := List.mem_filter.1 hd
  exact ⟨ds, hds, d, hd, recolors, Substitution.exists_arg_of_get? hs found⟩

/-- **Only colors that a text names are changed, and only into colors that it names.** -/
theorem apply_origin (h : parse text = .ok m) (c : Color) :
    (m.apply c ≠ c → ∃ target, HasPair text c target) ∧
      (m.apply c = c ∨ ∃ source, HasPair text source (m.apply c)) ∧
      ((∀ target, ¬ HasPair text c target) → m.apply c = c) := by
  obtain ⟨ss, hss, rfl⟩ := parse_eq_ok.1 h
  have run : (same.addChain ss).apply c = ss.foldr Substitution.apply c := apply_addChain same ss c
  rw [run]
  rcases Substitution.foldr_apply_cases ss c with kept | ⟨touched, made⟩
  · exact ⟨fun changed => absurd kept changed, .inl kept, fun _ => kept⟩
  · obtain ⟨s, mem, target, found⟩ := touched
    obtain ⟨s', mem', source, found'⟩ := made
    have named := hasPair_of_chain hss mem found
    exact ⟨fun _ => ⟨target, named⟩, .inr ⟨source, hasPair_of_chain hss mem' found'⟩,
      fun free => absurd named (free target)⟩

/-- A color goes through both tables, from one spelling of it to a target that is a source too. -/
def detourText : String := "?replace;112233=445566;445566=0a0b0c?flipx?replace;abc=112233"

theorem apply_origin_detourText :
    ∃ m, parse detourText = .ok m ∧ m.apply ⟨10, 11, 12⟩ = ⟨0x44, 0x55, 0x66⟩ ∧
      (∃ target, HasPair detourText ⟨10, 11, 12⟩ target) ∧
      (∃ source, HasPair detourText source ⟨0x44, 0x55, 0x66⟩) ∧
      (m.apply ⟨0xff, 0, 0⟩ = ⟨0xff, 0, 0⟩ ∨
        ∃ source, HasPair detourText source (m.apply ⟨0xff, 0, 0⟩)) := by
  have run : (parse detourText).toOption.map (fun m => m.apply ⟨10, 11, 12⟩) =
      some ⟨0x44, 0x55, 0x66⟩ := by
    decide +kernel
  obtain ⟨m, hm, moved⟩ := Option.map_eq_some_iff.1 run
  replace hm := Error.eq_ok_of_toOption hm
  obtain ⟨named, made, -⟩ := apply_origin hm ⟨10, 11, 12⟩
  rw [moved] at named made
  exact ⟨m, hm, moved, named (by decide), made.resolve_left (by decide),
    (apply_origin hm ⟨0xff, 0, 0⟩).2.1⟩

end Recoloring

end Paperdoll
