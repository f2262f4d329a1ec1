import Mathlib.Data.List.Forall2
import Paperdoll.Json.Strict
import Paperdoll.Json.Value

/-!
# Writing: what is written is read back

The parts of a document are written one behind the other, with punctuation between them; the reader
runs through them with an automaton for the characters and a machine for the tokens.

**Theorem (`Writes.parse`).** What is written part by part is read back: a quoted text, a number or
a keyword, and arrays and objects of parts that are.

In a container every part has a punctuation character behind it, which ends it for the automaton
(`Lexes`). The machine hands a finished part to the container that is open (`Builds`). Both compose,
and a part is written so that it is read back if it has tokens that do for both (`Writes`). A part
that stands alone is read like one that has a comma behind it (`lex_of_lexes`).
-/

namespace Paperdoll.Json

/-! ## Characters to tokens -/

/-- Characters that have punctuation behind them are read as tokens. -/
def Lexes (cs : List Char) (tokens : List Token) : Prop :=
  ∀ before p t, Strict.punctuation? p = some t →
    (cs ++ [p]).foldlM Strict.step ⟨.between, before⟩ =
      some ⟨.between, t :: (tokens.reverse ++ before)⟩

theorem step_punctuation {before : List Token} {p : Char} {t : Token}
    (h : Strict.punctuation? p = some t) :
    Strict.step ⟨.between, before⟩ p = some ⟨.between, t :: before⟩ := by
  unfold Strict.punctuation? at h
  split at h <;> first | cases h; rfl | cases h

theorem Lexes.nil : Lexes [] [] := fun _ _ _ h => by
  rw [List.nil_append, List.foldlM_cons, step_punctuation h]
  rfl

/-- **Parts with punctuation between them.** -/
theorem Lexes.append {cs cs' : List Char} {ts ts' : List Token} {p : Char} {t : Token}
    (h : Lexes cs ts) (punctuation : Strict.punctuation? p = some t) (h' : Lexes cs' ts') :
    Lexes (cs ++ p :: cs') (ts ++ t :: ts') := by
  intro before q u hq
  rw [show cs ++ p :: cs' ++ [q] = cs ++ [p] ++ (cs' ++ [q]) by simp, List.foldlM_append,
    h before p t punctuation]
  simpa using h' (t :: (ts.reverse ++ before)) q u hq

/-- Parts with commas between them. -/
theorem Lexes.intercalate {css : List (List Char)} {tss : List (List Token)}
    (h : List.Forall₂ Lexes css tss) :
    Lexes ([','].intercalate css) ([Token.comma].intercalate tss) := by
  induction h with
  | nil => exact .nil
  | @cons cs ts css tss head tail ih =>
    cases tail with
    | nil => simpa using head
    | cons next rest =>
      rw [List.intercalate_cons_cons, List.intercalate_cons_cons]
      simpa using head.append (p := ',') rfl ih

/-! ## Numbers and keywords -/

theorem not_isRunChar_punctuation {p : Char} {t : Token} (h : Strict.punctuation? p = some t) :
    Strict.isRunChar p = false := by
  unfold Strict.punctuation? at h
  split at h <;> first | cases h; rfl | cases h

theorem step_between_run {before : List Token} {c : Char} (h : Strict.isRunChar c = true) :
    Strict.step ⟨.between, before⟩ c = some ⟨.run [c], before⟩ := by
  have blank : Strict.isBlank c = false := by
    refine Bool.eq_false_iff.2 fun blank => ?_
    simp only [Strict.isBlank, Bool.or_eq_true, beq_iff_eq] at blank
    rcases blank with ((rfl | rfl) | rfl) | rfl <;> revert h <;> decide
  have quote : c ≠ '"' := by
    rintro rfl
    revert h
    decide
  simp [Strict.step, Strict.enter, blank, quote, h]

theorem foldlM_run {before : List Token} {cs chars : List Char}
    (h : ∀ c ∈ cs, Strict.isRunChar c = true) :
    cs.foldlM Strict.step ⟨.run chars, before⟩ = some ⟨.run (cs.reverse ++ chars), before⟩ := by
  induction cs generalizing chars with
  | nil => rfl
  | cons c cs ih =>
    have first : Strict.step ⟨.run chars, before⟩ c = some ⟨.run (c :: chars), before⟩ := by
      simp [Strict.step, h c List.mem_cons_self]
    rw [List.foldlM_cons, first]
    refine (ih fun c' h' => h c' (List.mem_cons_of_mem c h')).trans ?_
    rw [List.reverse_cons, List.append_assoc, List.singleton_append]

/-- **A run** is one token. -/
theorem Lexes.run {cs : List Char} {t : Token} (h : ∀ c ∈ cs, Strict.isRunChar c = true)
    (token : Strict.runToken? cs = some t) : Lexes cs [t] := by
  intro before p u punctuation
  obtain ⟨c, cs, rfl⟩ : ∃ c cs', cs = c :: cs' := by
    refine List.exists_cons_of_ne_nil ?_
    rintro rfl
    cases token
  have behind := not_isRunChar_punctuation punctuation
  rw [List.cons_append, List.foldlM_cons, step_between_run (h c List.mem_cons_self)]
  simp only [Option.bind_eq_bind, Option.bind_some]
  rw [List.foldlM_append, foldlM_run fun c' h' => h c' (List.mem_cons_of_mem c h')]
  simp [Strict.step, behind, token]
  exact step_punctuation punctuation

/-! ## Quoted texts -/

/-- The piece as which a character is written. -/
def unitOf (c : Char) : TextUnit :=
  if (escapeChar c).length = 6 then .code c.toNat else .char c

theorem hexValue?_digitChar {d : Nat} (h : d < 16) : Text.hexValue? d.digitChar = some d := by
  have all : ∀ d < 16, Text.hexValue? (Nat.digitChar d) = some d := by decide
  exact all d h

/-- **A character is read as its piece.** -/
theorem foldlM_escapeChar (c : Char) (units : List TextUnit) (before : List Token) :
    (escapeChar c).foldlM Strict.step ⟨.text units, before⟩ =
      some ⟨.text (unitOf c :: units), before⟩ := by
  unfold unitOf escapeChar
  split
  next quoted => rcases quoted with rfl | rfl <;> rfl
  split
  next h => rw [h]; rfl
  split
  next h => rw [h]; rfl
  split
  next h => rw [h]; rfl
  split
  next h => rw [h]; rfl
  split
  next h => rw [h]; rfl
  split
  -- two zeros and the two digits of the character itself
  next control =>
    have high := hexValue?_digitChar (d := c.toNat / 16) (by omega)
    have low := hexValue?_digitChar (d := c.toNat % 16) (by omega)
    have zero : Text.hexValue? '0' = some 0 := rfl
    have value : 16 * (c.toNat / 16) + c.toNat % 16 = c.toNat := Nat.div_add_mod ..
    simp [Strict.step, high, low, zero, value]
  next plain _ _ _ _ _ printable =>
    rw [not_or] at plain
    simp [Strict.step, plain.1, plain.2, printable]

theorem unitOf_cases (c : Char) :
    unitOf c = .char c ∨ unitOf c = .code c.toNat ∧ c.toNat < 0x20 := by
  unfold unitOf
  split
  next six =>
    refine .inr ⟨rfl, ?_⟩
    unfold escapeChar at six
    split_ifs at six <;> simp_all
  next => exact .inl rfl

/-- The code of a control character forms it, whatever follows. -/
theorem joinUnitsFrom_control {n : Nat} (control : n < 0x20) (join : Nat → Nat → Nat)
    (done : List Char) (rest : List TextUnit) :
    joinUnitsFrom join done (.code n :: rest) = joinUnitsFrom join (Char.ofNat n :: done) rest := by
  have high : isHighSurrogate n = false := by simp [isHighSurrogate]; omega
  have low : isLowSurrogate n = false := by simp [isLowSurrogate]; omega
  match rest with
  | [] => simp [joinUnitsFrom, high, low]
  | .char c :: rest => simp [joinUnitsFrom, high, low]
  | .code m :: rest => simp [joinUnitsFrom, high, low]

/-- **Pieces form their characters.** -/
theorem joinUnitsFrom_unitOf (join : Nat → Nat → Nat) (cs done : List Char) :
    joinUnitsFrom join done (cs.map unitOf) = some (done.reverse ++ cs) := by
  induction cs generalizing done with
  | nil => simp [joinUnitsFrom]
  | cons c cs ih =>
    have first : joinUnitsFrom join done (unitOf c :: cs.map unitOf) =
        joinUnitsFrom join (c :: done) (cs.map unitOf) := by
      rcases unitOf_cases c with plain | ⟨coded, control⟩
      · rw [plain, joinUnitsFrom]
      · rw [coded, joinUnitsFrom_control control, Char.ofNat_toNat]
    rw [List.map_cons, first, ih, List.reverse_cons, List.append_assoc, List.singleton_append]

theorem foldlM_escaped (cs : List Char) (units : List TextUnit) (before : List Token) :
    (cs.flatMap escapeChar).foldlM Strict.step ⟨.text units, before⟩ =
      some ⟨.text ((cs.map unitOf).reverse ++ units), before⟩ := by
  induction cs generalizing units with
  | nil => rfl
  | cons c cs ih =>
    rw [List.flatMap_cons, List.foldlM_append, foldlM_escapeChar]
    simpa using ih (unitOf c :: units)

/-- **A quoted text** is one token. -/
theorem Lexes.quoted (s : String) : Lexes (quoted s).toList [.string (some s)] := by
  intro before p t punctuation
  have joined : joinUnits Strict.joinHalves (s.toList.map unitOf) = some s := by
    rw [joinUnits, joinUnitsFrom_unitOf]
    simp
  have opened : Strict.step ⟨.between, before⟩ '"' = some ⟨.text [], before⟩ := rfl
  rw [Json.quoted, String.toList_ofList, List.cons_append, List.cons_append, List.append_assoc,
    List.foldlM_cons, opened]
  simp only [Option.bind_eq_bind, Option.bind_some]
  rw [List.foldlM_append, foldlM_escaped]
  simp [Strict.step, joined]
  exact step_punctuation punctuation

/-! ## Tokens to trees -/

/-- Tokens are built into a value, wherever one may stand. -/
structure Builds (tokens : List Token) (value : Tree) : Prop where
  next : ∀ stack, tokens.foldlM (step false) ⟨.value, stack⟩ = deliver value stack
  first : ∀ stack, tokens.foldlM (step false) ⟨.valueOrClose, stack⟩ = deliver value stack

theorem Builds.scalar (value : Tree) : Builds [.scalar value] value := by
  constructor <;> intro stack <;> simp [step, stepValue, Token.value?]

theorem Builds.string (s : Option String) : Builds [.string s] (.string s) := by
  constructor <;> intro stack <;> simp [step, stepValue, Token.value?]

/-- The items of an array, into an array that may have some. -/
theorem foldlM_items {tss : List (List Token)} {values : List Tree}
    (h : List.Forall₂ Builds tss values) (nonempty : tss ≠ []) (items : List Tree)
    (stack : List OpenContainer) :
    ([Token.comma].intercalate tss).foldlM (step false) ⟨.value, .array items :: stack⟩ =
        some ⟨.commaOrClose, .array (values.reverse ++ items) :: stack⟩ ∧
      ([Token.comma].intercalate tss).foldlM (step false) ⟨.valueOrClose, .array items :: stack⟩ =
        some ⟨.commaOrClose, .array (values.reverse ++ items) :: stack⟩ := by
  induction h generalizing items with
  | nil => exact absurd rfl nonempty
  | @cons ts value tss values head tail ih =>
    cases tail with
    | nil => simp [head.next, head.first, deliver]
    | cons next rest =>
      rw [List.intercalate_cons_cons]
      have rest := (ih (by simp) (value :: items)).1
      simp [List.foldlM_append, head.next, head.first, deliver, step, afterComma, rest]

/-- **An array** of parts that are built. -/
theorem Builds.array {tss : List (List Token)} {values : List Tree}
    (h : List.Forall₂ Builds tss values) :
    Builds (.openArray :: ([Token.comma].intercalate tss ++ [.closeArray])) (.array values) := by
  rcases eq_or_ne tss [] with rfl | nonempty
  · obtain rfl := List.forall₂_nil_left_iff.1 h
    constructor <;> intro stack <;> simp [step, stepValue, stepClose]
  · have items := fun stack => (foldlM_items h nonempty [] stack).2
    constructor <;> intro stack <;>
      simp [step, stepValue, stepClose, List.foldlM_append, items]

/-- Tokens are a key with a value. -/
def BuildsMember (tokens : List Token) (m : String × Tree) : Prop :=
  ∃ valueTokens, tokens = .string (some m.1) :: .colon :: valueTokens ∧ Builds valueTokens m.2

/-- A member as the machine holds it. -/
def heldMember (m : String × Tree) : Option String × Tree :=
  (some m.1, m.2)

theorem foldlM_member {tokens : List Token} {m : String × Tree} (h : BuildsMember tokens m)
    (members : List (Option String × Tree)) (stack : List OpenContainer) :
    tokens.foldlM (step false) ⟨.key, .object members :: stack⟩ =
        some ⟨.commaOrClose, .object (heldMember m :: members) :: stack⟩ ∧
      tokens.foldlM (step false) ⟨.keyOrClose, .object members :: stack⟩ =
        some ⟨.commaOrClose, .object (heldMember m :: members) :: stack⟩ := by
  obtain ⟨valueTokens, rfl, value⟩ := h
  simp [heldMember, step, stepKey, Token.key?, value.next, deliver]

/-- The members of an object, into an object that may have some. -/
theorem foldlM_members {tss : List (List Token)} {ms : List (String × Tree)}
    (h : List.Forall₂ BuildsMember tss ms) (nonempty : tss ≠ [])
    (members : List (Option String × Tree)) (stack : List OpenContainer) :
    ([Token.comma].intercalate tss).foldlM (step false) ⟨.key, .object members :: stack⟩ =
        some ⟨.commaOrClose, .object ((ms.map heldMember).reverse ++ members) :: stack⟩ ∧
      ([Token.comma].intercalate tss).foldlM (step false) ⟨.keyOrClose, .object members :: stack⟩ =
        some ⟨.commaOrClose, .object ((ms.map heldMember).reverse ++ members) :: stack⟩ := by
  induction h generalizing members with
  | nil => exact absurd rfl nonempty
  | @cons ts m tss ms head tail ih =>
    have first := foldlM_member head members stack
    cases tail with
    | nil => simp [first.1, first.2]
    | cons next rest =>
      rw [List.intercalate_cons_cons]
      have rest := (ih (by simp) (heldMember m :: members)).1
      simp [List.foldlM_append, first.1, first.2, step, afterComma, rest]

/-- **An object** of parts that are built. -/
theorem Builds.object {tss : List (List Token)} {ms : List (String × Tree)}
    (h : List.Forall₂ BuildsMember tss ms) :
    Builds (.openObject :: ([Token.comma].intercalate tss ++ [.closeObject]))
      (.object (ms.map heldMember)) := by
  rcases eq_or_ne tss [] with rfl | nonempty
  · obtain rfl := List.forall₂_nil_left_iff.1 h
    constructor <;> intro stack <;> simp [step, stepValue, stepClose]
  · have members := fun stack => (foldlM_members h nonempty [] stack).2
    constructor <;> intro stack <;>
      simp [step, stepValue, stepClose, List.foldlM_append, members]

/-! ## Written parts -/

/-- A text is read back as a value wherever something comes behind it. -/
def Writes (text : String) (value : Tree) : Prop :=
  ∃ tokens, Lexes text.toList tokens ∧ Builds tokens value

theorem Writes.quoted (s : String) : Writes (quoted s) (.string (some s)) :=
  ⟨_, .quoted s, .string _⟩

theorem Writes.run {text : String} {value : Tree}
    (h : ∀ c ∈ text.toList, Strict.isRunChar c = true)
    (token : Strict.runToken? text.toList = some (.scalar value)) : Writes text value :=
  ⟨_, .run h token, .scalar value⟩

theorem exists_tokens {α β γ : Type} {R : α → γ → Prop} {S : γ → β → Prop} {as : List α}
    {bs : List β} (h : List.Forall₂ (fun a b => ∃ c, R a c ∧ S c b) as bs) :
    ∃ cs, List.Forall₂ R as cs ∧ List.Forall₂ S cs bs := by
  induction h with
  | nil => exact ⟨[], .nil, .nil⟩
  | cons head _ ih =>
    obtain ⟨c, r, s⟩ := head
    obtain ⟨cs, rs, ss⟩ := ih
    exact ⟨c :: cs, .cons r rs, .cons s ss⟩

/-- **An array** is read back if its items are. -/
theorem Writes.array {texts : List String} {values : List Tree}
    (h : List.Forall₂ Writes texts values) : Writes (arrayText texts) (.array values) := by
  obtain ⟨tss, lexed, built⟩ := exists_tokens h
  refine ⟨_, ?_, .array built⟩
  have items :
      Lexes ([','].intercalate (texts.map String.toList)) ([Token.comma].intercalate tss) :=
    .intercalate (List.forall₂_map_left_iff.2 lexed)
  have closed := Lexes.nil.append (p := '[') rfl (items.append (p := ']') rfl .nil)
  simpa [arrayText] using closed

theorem Writes.member (field : String × String) (m : String × Tree) (key : field.1 = m.1)
    (value : Writes field.2 m.2) :
    ∃ tokens, Lexes (Json.quoted field.1 ++ ":" ++ field.2).toList tokens ∧
      BuildsMember tokens m := by
  obtain ⟨tokens, lexed, built⟩ := value
  refine ⟨_, ?_, tokens, rfl, built⟩
  have member := (Lexes.quoted field.1).append (p := ':') rfl lexed
  simpa [key] using member

/-- **An object** is read back if its members are. -/
theorem Writes.object {fields : List (String × String)} {ms : List (String × Tree)}
    (h : List.Forall₂ (fun f m => f.1 = m.1 ∧ Writes f.2 m.2) fields ms) :
    Writes (objectText fields) (.object (ms.map heldMember)) := by
  obtain ⟨tss, lexed, built⟩ := exists_tokens (h.imp fun f m h => Writes.member f m h.1 h.2)
  refine ⟨_, ?_, .object built⟩
  have members : Lexes
      ([','].intercalate (fields.map fun f => (Json.quoted f.1 ++ ":" ++ f.2).toList))
      ([Token.comma].intercalate tss) :=
    .intercalate (List.forall₂_map_left_iff.2 lexed)
  have closed := Lexes.nil.append (p := '\x7b') rfl (members.append (p := '\x7d') rfl .nil)
  simpa [objectText, Function.comp_def] using closed

/-! ## Whole texts -/

/-- What is read with punctuation behind it is read alone. -/
theorem lex_of_lexes {cs : List Char} {ts : List Token} (h : Lexes cs ts) :
    Strict.lex cs = some ts := by
  have run := h [] ',' .comma rfl
  rw [List.append_nil, List.foldlM_append] at run
  obtain ⟨⟨mode, tokens⟩, ran, last⟩ := Option.bind_eq_some_iff.1 run
  have comma : Strict.step ⟨mode, tokens⟩ ',' = some ⟨.between, .comma :: ts.reverse⟩ := by
    simpa using last
  have entered (tokens : List Token) :
      Strict.enter tokens ',' = some ⟨.between, .comma :: tokens⟩ := rfl
  rw [Strict.lex, ran]
  change Strict.finish ⟨mode, tokens⟩ = some ts
  -- the comma stands between tokens or ends a run, and it ends no text
  cases mode with
  | between =>
    have same : tokens = ts.reverse := by simpa [Strict.step, entered] using comma
    rw [Strict.finish, same, List.reverse_reverse]
  | run chars =>
    have ended : Strict.isRunChar ',' = false := rfl
    obtain ⟨token, read, same⟩ : ∃ token, Strict.runToken? chars.reverse = some token ∧
        token :: tokens = ts.reverse := by
      simpa [Strict.step, ended, entered, Option.bind_eq_some_iff] using comma
    change (Strict.runToken? chars.reverse).map (fun t => (t :: tokens).reverse) = some ts
    rw [read, Option.map_some, same, List.reverse_reverse]
  | text units => cases comma
  | escape units => cases comma
  | code units missing value => cases comma

/-- **A part that is written alone** is read back. -/
theorem Writes.parse {text : String} {value : Tree} (h : Writes text value) :
    Strict.parse text = some value := by
  obtain ⟨tokens, lexed, built⟩ := h
  rw [Strict.parse, lex_of_lexes lexed]
  change parseTokens false tokens = some value
  rw [parseTokens, built.next []]
  rfl

theorem Writes.parse_bind {α : Type} {text : String} {value : Tree} (h : Writes text value)
    (read : Tree → Option α) : (Strict.parse text).bind read = read value := by
  rw [h.parse, Option.bind_some]

end Paperdoll.Json
