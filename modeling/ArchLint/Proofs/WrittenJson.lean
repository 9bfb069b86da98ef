import ArchLint.Json.Document
import ArchLint.Json.Printer
import Mathlib.Data.List.TakeDrop
import Mathlib.Tactic.SplitIfs

/-!
Written values are read back. The words of a value (`words`) stand between its text and the value:
the text is cut into them (`cutInto_pretty`), and the value is what they mean (`value?_words`). So
reading undoes writing (`ofText?_render`), whatever the strings hold, as long as the numbers are
written as the format writes them.
-/

namespace ArchLint

/-- The number is written as documents write numbers: no part is empty, and only a single zero
starts with zero. -/
structure Numeral.IsWellWritten (n : Numeral) : Prop where
  whole : n.whole = ['0'] ∨ n.whole ≠ [] ∧ n.whole.head? ≠ some '0'
  whole_digits : ∀ c ∈ n.whole, c.isDigit = true
  fraction_digits : ∀ c ∈ n.fraction, c.isDigit = true
  exponent : ∀ e ∈ n.exponent, e.2 ≠ [] ∧ ∀ c ∈ e.2, c.isDigit = true

namespace Json

mutual

/-- All numbers in the value are written as documents write numbers. -/
def IsWellWritten : Json → Prop
  | number n => n.IsWellWritten
  | list items => AllWellWritten items
  | table entries => EntriesWellWritten entries
  | _ => True

def AllWellWritten : List Json → Prop
  | [] => True
  | v :: vs => IsWellWritten v ∧ AllWellWritten vs

def EntriesWellWritten : List (String × Json) → Prop
  | [] => True
  | (_, v) :: es => IsWellWritten v ∧ EntriesWellWritten es

end

mutual

/-- The words of a value. -/
def words : Json → List Token
  | null => [.null]
  | bool b => [.bool b]
  | number n => [.number n]
  | text s => [.text s.toList]
  | unpaired => [.unpaired]
  | list [] => [.openList, .closeList]
  | list (v :: vs) => .openList :: words v ++ itemWords vs ++ [.closeList]
  | table [] => [.openTable, .closeTable]
  | table ((k, v) :: es) =>
    .openTable :: .text k.toList :: .colon :: words v ++ entryWords es ++ [.closeTable]

/-- The words of further items of a list. -/
def itemWords : List Json → List Token
  | [] => []
  | v :: vs => .comma :: words v ++ itemWords vs

/-- The words of further entries of a table. -/
def entryWords : List (String × Json) → List Token
  | [] => []
  | (k, v) :: es => .comma :: .text k.toList :: .colon :: words v ++ entryWords es

end

/-! ### Strings -/

theorem hexDigit?_hexChar : ∀ n < 16, hexDigit? (hexChar n) = some n := by decide

theorem unit?_of_control {n : Nat} (h : n < 32) :
    unit? '0' '0' (hexChar (n / 16)) (hexChar (n % 16)) = some n := by
  have high : hexDigit? (hexChar (n / 16)) = some (n / 16) := hexDigit?_hexChar _ (by omega)
  have low : hexDigit? (hexChar (n % 16)) = some (n % 16) := hexDigit?_hexChar _ (by omega)
  have zero : hexDigit? '0' = some 0 := by decide
  have sum : 16 * (n / 16) + n % 16 = n := Nat.div_add_mod n 16
  simp [unit?, high, low, zero, sum]

theorem stringStep?_of_plain {c : Char} {rest : List Char} (quote : c ≠ '"') (backslash : c ≠ '\\')
    (control : ¬ c.toNat < 32) : stringStep? (c :: rest) = some (some c, rest) := by
  unfold stringStep?
  split
  case h_1 h | h_2 h => exact absurd (List.cons.inj h).1 backslash
  case h_3 h =>
    obtain ⟨rfl, rfl⟩ := List.cons.inj h
    simp [quote, backslash, control]
  case h_4 h => exact absurd h (List.cons_ne_nil _ _)

/-- A character that is written is read back. -/
theorem stringStep?_escaped (c : Char) (rest : List Char) :
    stringStep? (escaped c ++ rest) = some (some c, rest) := by
  unfold escaped
  split_ifs with quote backslash back feed line return' tab control
  · subst quote; rfl
  · subst backslash; rfl
  · subst back; rfl
  · subst feed; rfl
  · subst line; rfl
  · subst return'; rfl
  · subst tab; rfl
  · simp only [List.cons_append, List.nil_append, stringStep?, unit?_of_control control]
    rw [if_pos (Or.inl (by omega)), Char.ofNat_toNat]
  · exact stringStep?_of_plain quote backslash control

/-- No written character is the quote that ends the string. -/
theorem exists_escaped_eq_cons (c : Char) : ∃ d ds, escaped c = d :: ds ∧ d ≠ '"' := by
  unfold escaped
  split_ifs with quote
  on_goal 9 => exact ⟨c, [], rfl, quote⟩
  all_goals exact ⟨'\\', _, rfl, by decide⟩

theorem string?_escaped : ∀ (s : List Char) (read : List Written) (fuel : Nat) (rest : List Char),
    s.length < fuel → string? read fuel (s.flatMap escaped ++ '"' :: rest) =
      some (read.reverse ++ s.map some, rest)
  | _, _, 0, _, h => absurd h (Nat.not_lt_zero _)
  | [], read, fuel + 1, rest, _ => by simp [string?]
  | c :: s, read, fuel + 1, rest, h => by
    obtain ⟨d, ds, hd, quote⟩ := exists_escaped_eq_cons c
    have step := stringStep?_escaped c (s.flatMap escaped ++ '"' :: rest)
    have more := string?_escaped s (some c :: read) fuel rest (Nat.lt_of_succ_lt_succ h)
    rw [List.flatMap_cons, List.append_assoc]
    rw [hd, List.cons_append] at step ⊢
    unfold string?
    split
    case h_1 he => exact absurd (List.cons.inj he).1 quote
    case h_2 => simp [step, more]

theorem length_le_flatMap_escaped (s : List Char) : s.length ≤ (s.flatMap escaped).length := by
  induction s with
  | nil => exact Nat.le_refl 0
  | cons c s ih =>
    obtain ⟨d, ds, hd, -⟩ := exists_escaped_eq_cons c
    rw [List.flatMap_cons, hd, List.length_append, List.length_cons, List.length_cons]
    omega

theorem token?_quoted (s : String) (rest : List Char) :
    token? (quoted s ++ rest) = some (.text s.toList, rest) := by
  have read := string?_escaped s.toList [] ((s.toList.flatMap escaped ++ '"' :: rest).length + 1) rest
    (by have := length_le_flatMap_escaped s.toList; simp only [List.length_append]; omega)
  have chars : stringToken (s.toList.map some) = .text s.toList := by
    simp [stringToken, List.filterMap_map]
  simp only [quoted, List.cons_append, List.append_assoc, List.nil_append, token?, read]
  simp [chars]

/-! ### Numbers -/

/-- A number does not go on with what follows. -/
def EndsNumber (rest : List Char) : Prop :=
  ∀ c ∈ rest.head?, c.isDigit = false ∧ c ≠ '.' ∧ c ≠ 'e' ∧ c ≠ 'E'

/-- The digits before the point. -/
def wholeOf (cs : List Char) : List Char × List Char :=
  match cs with
  | '0' :: rest => (['0'], rest)
  | cs => digitsOf cs

/-- The digits behind the point, if there is one. -/
def fractionOf? (cs : List Char) : Option (List Char × List Char) :=
  match cs with
  | '.' :: rest =>
    match digitsOf rest with
    | ([], _) => none
    | (ds, rest) => some (ds, rest)
  | rest => some ([], rest)

/-- The exponent, if there is one. -/
def exponentOf? (cs : List Char) : Option (Option (Bool × List Char) × List Char) :=
  match cs with
  | c :: more =>
    if c = 'e' ∨ c = 'E' then (exponentTail? more).map fun (e, rest) => (some e, rest)
    else some (none, cs)
  | [] => some (none, [])

/-- A number without its sign, from its parts. -/
def numeralInParts? (negative : Bool) (cs : List Char) : Option (Numeral × List Char) :=
  if (wholeOf cs).1.isEmpty then none
  else
    match fractionOf? (wholeOf cs).2 with
    | none => none
    | some (fraction, rest) =>
      match rest with
      | c :: more =>
        if c = 'e' ∨ c = 'E' then
          (exponentTail? more).map fun (e, rest) =>
            ({ negative, whole := (wholeOf cs).1, fraction, exponent := some e }, rest)
        else some ({ negative, whole := (wholeOf cs).1, fraction }, rest)
      | [] => some ({ negative, whole := (wholeOf cs).1, fraction }, [])

/-- A number is read part by part. -/
theorem numeral?_eq {negative : Bool} {cs whole fraction afterWhole afterFraction rest : List Char}
    {exponent : Option (Bool × List Char)} (hw : wholeOf cs = (whole, afterWhole)) (hne : whole ≠ [])
    (hf : fractionOf? afterWhole = some (fraction, afterFraction))
    (he : exponentOf? afterFraction = some (exponent, rest)) :
    numeral? negative cs = some ({ negative, whole, fraction, exponent }, rest) := by
  have parts : numeral? negative cs = numeralInParts? negative cs := rfl
  rw [parts, numeralInParts?, hw, hf, if_neg (by simpa using hne)]
  unfold exponentOf? at he
  cases afterFraction with
  | nil => simpa using he
  | cons c more =>
    by_cases mark : c = 'e' ∨ c = 'E'
    · simp only [if_pos mark] at he ⊢
      obtain ⟨⟨e, rest'⟩, htail, same⟩ := Option.map_eq_some_iff.mp he
      obtain ⟨rfl, rfl⟩ := Prod.mk.inj same
      rw [htail]
      rfl
    · simp only [if_neg mark] at he ⊢
      obtain ⟨rfl, rfl⟩ := Prod.mk.inj (Option.some.inj he)
      rfl

theorem digitsOf_append {ds rest : List Char} (hd : ∀ c ∈ ds, c.isDigit = true)
    (hr : ∀ c ∈ rest.head?, c.isDigit = false) : digitsOf (ds ++ rest) = (ds, rest) := by
  have stop : rest.takeWhile Char.isDigit = [] ∧ rest.dropWhile Char.isDigit = rest := by
    cases rest with
    | nil => exact ⟨rfl, rfl⟩
    | cons c cs => simp [hr c rfl]
  rw [digitsOf, List.span_eq_takeWhile_dropWhile, List.takeWhile_append_of_pos hd,
    List.dropWhile_append_of_pos hd, stop.1, stop.2, List.append_nil]

theorem wholeOf_append {ds rest : List Char} (hw : ds = ['0'] ∨ ds ≠ [] ∧ ds.head? ≠ some '0')
    (hd : ∀ c ∈ ds, c.isDigit = true) (hr : ∀ c ∈ rest.head?, c.isDigit = false) :
    wholeOf (ds ++ rest) = (ds, rest) := by
  rcases hw with rfl | ⟨hne, zero⟩
  · rfl
  · rw [← digitsOf_append hd hr]
    unfold wholeOf
    split
    · rename_i he
      obtain ⟨d, ds, rfl⟩ := List.exists_cons_of_ne_nil hne
      exact absurd (congrArg some (List.cons.inj he).1) zero
    · rfl

theorem fractionOf?_append {ds rest : List Char} (hd : ∀ c ∈ ds, c.isDigit = true)
    (hr : ∀ c ∈ rest.head?, c.isDigit = false ∧ c ≠ '.') :
    fractionOf? ((if ds.isEmpty then [] else '.' :: ds) ++ rest) = some (ds, rest) := by
  cases ds with
  | nil =>
    unfold fractionOf?
    split
    · rename_i he
      exact absurd rfl (hr '.' (by rw [List.isEmpty_nil, if_pos rfl, List.nil_append] at he; rw [he]; rfl)).2
    · rfl
  | cons d ds =>
    have read := digitsOf_append hd fun c hc => (hr c hc).1
    rw [List.cons_append] at read
    simp [fractionOf?, read]

/-- The sign of an exponent, and what follows it. -/
def signOf (cs : List Char) : Bool × List Char :=
  match cs with
  | '-' :: cs => (true, cs)
  | '+' :: cs => (false, cs)
  | cs => (false, cs)

theorem signOf_append {negative : Bool} {ds : List Char} (hne : ds ≠ [])
    (hd : ∀ c ∈ ds, c.isDigit = true) (rest : List Char) :
    signOf ((if negative then '-' :: ds else ds) ++ rest) = (negative, ds ++ rest) := by
  cases negative with
  | true => rfl
  | false =>
    obtain ⟨d, ds, rfl⟩ := List.exists_cons_of_ne_nil hne
    have digit : d.isDigit = true := hd d List.mem_cons_self
    unfold signOf
    split
    case h_1 he | h_2 he =>
      rw [(List.cons.inj he).1] at digit
      exact absurd digit (by decide)
    case h_3 => rfl

theorem exponentTail?_append {negative : Bool} {ds rest : List Char} (hne : ds ≠ [])
    (hd : ∀ c ∈ ds, c.isDigit = true) (hr : ∀ c ∈ rest.head?, c.isDigit = false) :
    exponentTail? ((if negative then '-' :: ds else ds) ++ rest) = some ((negative, ds), rest) := by
  have parts : ∀ cs, exponentTail? cs = match digitsOf (signOf cs).2 with
      | ([], _) => none
      | (ds, rest) => some (((signOf cs).1, ds), rest) := fun _ => rfl
  rw [parts, signOf_append hne hd, digitsOf_append hd hr]
  obtain ⟨d, ds, rfl⟩ := List.exists_cons_of_ne_nil hne
  rfl

/-- How an exponent is written. -/
def exponentText (exponent : Option (Bool × List Char)) : List Char :=
  match exponent with
  | none => []
  | some (negative, ds) => 'e' :: (if negative then '-' :: ds else ds)

theorem exponentOf?_append {exponent : Option (Bool × List Char)} {rest : List Char}
    (he : ∀ e ∈ exponent, e.2 ≠ [] ∧ ∀ c ∈ e.2, c.isDigit = true) (hr : EndsNumber rest) :
    exponentOf? (exponentText exponent ++ rest) = some (exponent, rest) := by
  cases exponent with
  | none =>
    cases rest with
    | nil => rfl
    | cons c cs =>
      obtain ⟨-, -, small, large⟩ := hr c rfl
      simp [exponentText, exponentOf?, small, large]
  | some e =>
    obtain ⟨negative, ds⟩ := e
    obtain ⟨hne, hd⟩ := he _ rfl
    have read := @exponentTail?_append negative ds rest hne hd fun c hc => (hr c hc).1
    simp only [exponentText, exponentOf?, List.cons_append, read]
    simp

/-- A number that is written well is read back, whatever ends it. -/
theorem numeral?_written {n : Numeral} (hn : n.IsWellWritten) {rest : List Char}
    (hr : EndsNumber rest) :
    numeral? n.negative ({ n with negative := false }.written ++ rest) = some (n, rest) := by
  have behindFraction : ∀ c ∈ (exponentText n.exponent ++ rest).head?,
      c.isDigit = false ∧ c ≠ '.' := by
    cases hx : n.exponent with
    | none => exact fun c hc => ⟨(hr c hc).1, (hr c hc).2.1⟩
    | some e => rintro c ⟨⟩; exact ⟨rfl, by decide⟩
  have behindWhole : ∀ c ∈ ((if n.fraction.isEmpty then [] else '.' :: n.fraction) ++
      (exponentText n.exponent ++ rest)).head?, c.isDigit = false := by
    cases hx : n.fraction with
    | nil => exact fun c hc => (behindFraction c hc).1
    | cons d ds => rintro c ⟨⟩; rfl
  have whole : n.whole ≠ [] := by
    rcases hn.whole with zero | ⟨hne, -⟩
    · rw [zero]; exact List.cons_ne_nil _ _
    · exact hne
  have text : { n with negative := false }.written ++ rest = n.whole ++
      ((if n.fraction.isEmpty then [] else '.' :: n.fraction) ++
        (exponentText n.exponent ++ rest)) := by
    simp only [Numeral.written, List.append_assoc]
    rfl
  rw [text]
  exact numeral?_eq (wholeOf_append hn.whole hn.whole_digits behindWhole) whole
    (fractionOf?_append hn.fraction_digits behindFraction) (exponentOf?_append hn.exponent hr)

theorem token?_of_isDigit {c : Char} {cs : List Char} (hc : c.isDigit = true) :
    token? (c :: cs) = (numeral? false (c :: cs)).map fun (n, rest) => (.number n, rest) := by
  unfold token?
  split
  case h_12 => rfl
  all_goals
    rename_i he
    rw [(List.cons.inj he).1] at hc
    exact absurd hc (by decide)

/-- A number is a sign, if it has one, and at least one digit. -/
theorem exists_written_eq {n : Numeral} (hn : n.IsWellWritten) :
    ∃ d ds, { n with negative := false }.written = d :: ds ∧ d.isDigit = true ∧
      n.written = if n.negative then '-' :: d :: ds else d :: ds := by
  obtain ⟨d, ds, hd⟩ : ∃ d ds, n.whole = d :: ds := by
    rcases hn.whole with zero | ⟨hne, -⟩
    · exact ⟨'0', [], zero⟩
    · exact List.exists_cons_of_ne_nil hne
  obtain ⟨ds', unsigned⟩ : ∃ ds', { n with negative := false }.written = d :: ds' := by
    simp [Numeral.written, hd]
  refine ⟨d, ds', unsigned, hn.whole_digits d (hd ▸ List.mem_cons_self), ?_⟩
  rw [← unsigned]
  cases hs : n.negative <;> simp [Numeral.written, hs]

theorem token?_written {n : Numeral} (hn : n.IsWellWritten) {rest : List Char}
    (hr : EndsNumber rest) : token? (n.written ++ rest) = some (.number n, rest) := by
  have read := numeral?_written hn hr
  obtain ⟨d, ds, unsigned, digit, text⟩ := exists_written_eq hn
  rw [unsigned] at read
  rw [text]
  cases hs : n.negative with
  | true =>
    rw [hs] at read
    simp only [if_true, List.cons_append, token?] at read ⊢
    rw [read]
    rfl
  | false =>
    rw [hs] at read
    simp only [Bool.false_eq_true, if_false, List.cons_append] at read ⊢
    rw [token?_of_isDigit digit, read]
    rfl

/-! ### From texts to words -/

/-- The text is cut into the words, however much more is allowed than it needs. -/
def CutInto (cs : List Char) (ts : List Token) : Prop :=
  ∀ fuel, cs.length < fuel → tokens? fuel cs = some ts

namespace CutInto

theorem nil : CutInto [] [] := by
  intro fuel h
  obtain ⟨fuel, rfl⟩ := Nat.exists_eq_add_of_lt h
  rfl

theorem blank {c : Char} {cs : List Char} {ts : List Token} (hc : isBlank c = true)
    (h : CutInto cs ts) : CutInto (c :: cs) ts := by
  intro fuel hf
  have words := h fuel (Nat.lt_of_succ_lt hf)
  cases fuel with
  | zero => exact absurd hf (Nat.not_lt_zero _)
  | succ fuel =>
    rw [tokens?] at words ⊢
    rwa [List.dropWhile_cons_of_pos hc]

theorem blanks : ∀ {bs cs : List Char} {ts : List Token}, (∀ c ∈ bs, isBlank c = true) →
    CutInto cs ts → CutInto (bs ++ cs) ts
  | [], _, _, _, h => h
  | b :: _, _, _, hb, h =>
    (blanks (fun c hc => hb c (List.mem_cons_of_mem b hc)) h).blank (hb b List.mem_cons_self)

/-- A word is cut off, and the rest is cut further. -/
theorem word {c : Char} {cs rest : List Char} {t : Token} {ts : List Token}
    (hc : isBlank c = false) (ht : token? (c :: cs) = some (t, rest)) (hr : rest <:+ cs)
    (h : CutInto rest ts) : CutInto (c :: cs) (t :: ts) := by
  intro fuel hf
  cases fuel with
  | zero => exact absurd hf (Nat.not_lt_zero _)
  | succ fuel =>
    have further := h fuel (Nat.lt_of_le_of_lt hr.length_le (Nat.lt_of_succ_lt_succ hf))
    have start : (c :: cs).dropWhile isBlank = c :: cs :=
      List.dropWhile_cons_of_neg (by simp [hc])
    rw [tokens?, start]
    simp only [ht, further, Option.map_some]

/-- A word of one character. -/
theorem mark {c : Char} {cs : List Char} {t : Token} {ts : List Token} (h : CutInto cs ts)
    (hc : isBlank c = false) (ht : token? (c :: cs) = some (t, cs)) : CutInto (c :: cs) (t :: ts) :=
  word hc ht (List.suffix_refl cs) h

theorem newline {cs : List Char} {ts : List Token} (level : Nat) (h : CutInto cs ts) :
    CutInto (newline level ++ cs) ts := by
  refine blanks (fun c hc => ?_) h
  rcases List.mem_cons.mp hc with rfl | hc
  · rfl
  · rw [List.eq_of_mem_replicate hc]
    rfl

theorem quoted {cs : List Char} {ts : List Token} (s : String) (h : CutInto cs ts) :
    CutInto (quoted s ++ cs) (.text s.toList :: ts) := by
  exact word rfl (token?_quoted s cs) (List.suffix_append _ cs) h

/-- The key of an entry, before its value. -/
theorem key {cs : List Char} {ts : List Token} (k : String) (h : CutInto cs ts) :
    CutInto (Json.quoted k ++ ':' :: ' ' :: cs) (.text k.toList :: .colon :: ts) := by
  have value : CutInto (' ' :: cs) ts := h.blank rfl
  have colon : CutInto (':' :: ' ' :: cs) (.colon :: ts) := value.mark rfl rfl
  exact colon.quoted k

theorem number {n : Numeral} (hn : n.IsWellWritten) {cs : List Char} {ts : List Token}
    (hc : EndsNumber cs) (h : CutInto cs ts) : CutInto (n.written ++ cs) (.number n :: ts) := by
  have read := token?_written hn hc
  obtain ⟨d, ds, -, digit, text⟩ := exists_written_eq hn
  have plain : isBlank d = false := by
    refine Bool.eq_false_iff.mpr fun blank => ?_
    simp only [isBlank, Bool.or_eq_true, decide_eq_true_eq] at blank
    rcases blank with ((rfl | rfl) | rfl) | rfl <;> exact absurd digit (by decide)
  rw [text] at read ⊢
  cases hs : n.negative with
  | true =>
    rw [hs] at read
    exact word rfl read (List.suffix_append (d :: ds) cs) h
  | false =>
    rw [hs] at read
    exact word plain read (List.suffix_append ds cs) h

end CutInto

theorem endsNumber_newline (level : Nat) (rest : List Char) :
    EndsNumber (newline level ++ rest) := by
  rintro c ⟨⟩
  decide

theorem endsNumber_prettyItems {level : Nat} {rest : List Char} (h : EndsNumber rest) :
    ∀ vs : List Json, EndsNumber (prettyItems level vs ++ rest)
  | [] => h
  | _ :: _ => by
    rw [prettyItems]
    rintro c ⟨⟩
    decide

theorem endsNumber_prettyEntries {level : Nat} {rest : List Char} (h : EndsNumber rest) :
    ∀ es : List (String × Json), EndsNumber (prettyEntries level es ++ rest)
  | [] => h
  | _ :: _ => by
    rw [prettyEntries]
    rintro c ⟨⟩
    decide

mutual

/-- The text of a value is cut into the words of the value. -/
theorem cutInto_pretty : ∀ (v : Json) (level : Nat) {rest : List Char} {ts : List Token},
    v.IsWellWritten → EndsNumber rest → CutInto rest ts →
    CutInto (pretty level v ++ rest) (words v ++ ts)
  | null, _, rest, _, _, _, h => CutInto.word rfl rfl (List.suffix_append ['u', 'l', 'l'] rest) h
  | bool true, _, rest, _, _, _, h => CutInto.word rfl rfl (List.suffix_append ['r', 'u', 'e'] rest) h
  | bool false, _, rest, _, _, _, h =>
    CutInto.word rfl rfl (List.suffix_append ['a', 'l', 's', 'e'] rest) h
  | number _, _, _, _, hv, hr, h => CutInto.number hv hr h
  | text s, _, _, _, _, _, h => h.quoted s
  | unpaired, _, rest, _, _, _, h => by
    have text : "\"\\ud800\"".toList = ['"', '\\', 'u', 'd', '8', '0', '0', '"'] := by decide
    rw [pretty.eq_def, words]
    simp only [text]
    exact CutInto.word rfl rfl (List.suffix_append ['\\', 'u', 'd', '8', '0', '0', '"'] rest) h
  | list [], level, rest, ts, _, _, h => by
    have close : CutInto (']' :: rest) (.closeList :: ts) := h.mark rfl rfl
    rw [pretty.eq_def, words]
    exact close.mark rfl rfl
  | list (v :: vs), level, rest, ts, hv, _, h => by
    have close : CutInto (']' :: rest) (.closeList :: ts) := h.mark rfl rfl
    have ends := endsNumber_newline level (']' :: rest)
    have items := cutInto_prettyItems vs (level + 1) hv.2 ends (close.newline level)
    have value := cutInto_pretty v (level + 1) hv.1 (endsNumber_prettyItems ends vs) items
    rw [pretty.eq_def, words]
    simp only [List.cons_append, List.append_assoc, List.nil_append]
    exact (value.newline (level + 1)).mark rfl rfl
  | table [], level, rest, ts, _, _, h => by
    have close : CutInto ('\x7d' :: rest) (.closeTable :: ts) := h.mark rfl rfl
    rw [pretty.eq_def, words]
    exact close.mark rfl rfl
  | table ((k, v) :: es), level, rest, ts, hv, _, h => by
    have close : CutInto ('\x7d' :: rest) (.closeTable :: ts) := h.mark rfl rfl
    have ends := endsNumber_newline level ('\x7d' :: rest)
    have entries := cutInto_prettyEntries es (level + 1) hv.2 ends (close.newline level)
    have value := cutInto_pretty v (level + 1) hv.1 (endsNumber_prettyEntries ends es) entries
    rw [pretty.eq_def, words]
    simp only [List.cons_append, List.append_assoc, List.nil_append]
    exact ((value.key k).newline (level + 1)).mark rfl rfl

theorem cutInto_prettyItems : ∀ (vs : List Json) (level : Nat) {rest : List Char}
    {ts : List Token}, AllWellWritten vs → EndsNumber rest → CutInto rest ts →
    CutInto (prettyItems level vs ++ rest) (itemWords vs ++ ts)
  | [], _, _, _, _, _, h => h
  | v :: vs, level, rest, ts, hv, hr, h => by
    have items := cutInto_prettyItems vs level hv.2 hr h
    have value := cutInto_pretty v level hv.1 (endsNumber_prettyItems hr vs) items
    rw [prettyItems, itemWords]
    simp only [List.cons_append, List.append_assoc]
    exact (value.newline level).mark rfl rfl

theorem cutInto_prettyEntries : ∀ (es : List (String × Json)) (level : Nat) {rest : List Char}
    {ts : List Token}, EntriesWellWritten es → EndsNumber rest → CutInto rest ts →
    CutInto (prettyEntries level es ++ rest) (entryWords es ++ ts)
  | [], _, _, _, _, _, h => h
  | (k, v) :: es, level, rest, ts, hv, hr, h => by
    have entries := cutInto_prettyEntries es level hv.2 hr h
    have value := cutInto_pretty v level hv.1 (endsNumber_prettyEntries hr es) entries
    rw [prettyEntries, entryWords]
    simp only [List.cons_append, List.append_assoc, List.nil_append]
    exact ((value.key k).newline level).mark rfl rfl

end

/-! ### From words to values -/

/-- No value starts where a list ends. -/
theorem exists_words_eq_cons (v : Json) : ∃ t ts, words v = t :: ts ∧ t ≠ .closeList := by
  cases v with
  | list items => cases items <;> (rw [words]; exact ⟨_, _, rfl, by nofun⟩)
  | table entries => cases entries <;> (rw [words]; exact ⟨_, _, rfl, by nofun⟩)
  | _ => rw [words]; exact ⟨_, _, rfl, by nofun⟩

theorem value?_openList {t : Token} (h : t ≠ .closeList) (fuel : Nat) (ts : List Token) :
    value? (fuel + 1) (.openList :: t :: ts) =
      (items? fuel (t :: ts)).map fun (items, ts) => (.list items, ts) := by
  cases t with
  | closeList => exact absurd rfl h
  | _ => rfl

-- the reader counts its steps, so the induction is on these
mutual

/-- The words of a value mean the value, if two steps are allowed for each of them. -/
theorem value?_words : ∀ (fuel : Nat) (v : Json) (ts : List Token), 2 * (words v).length ≤ fuel →
    value? fuel (words v ++ ts) = some (v, ts)
  | 0, v, ts, h => by
    obtain ⟨t, more, hw, -⟩ := exists_words_eq_cons v
    rw [hw, List.length_cons] at h
    omega
  | fuel + 1, null, ts, h => by rw [words]; rfl
  | fuel + 1, bool b, ts, h => by rw [words]; rfl
  | fuel + 1, number n, ts, h => by rw [words]; rfl
  | fuel + 1, text s, ts, h => by simp [words, value?]
  | fuel + 1, unpaired, ts, h => by rw [words]; rfl
  | fuel + 1, list [], ts, h => by simp [words, value?]
  | fuel + 1, list (v :: vs), ts, h => by
    obtain ⟨t, more, hw, open'⟩ := exists_words_eq_cons v
    have enough : 2 * ((words v).length + (itemWords vs).length) < fuel := by
      simp only [words, List.length_cons, List.length_append, List.length_nil] at h
      omega
    have items := items?_words fuel v vs ts enough
    rw [words]
    simp only [List.cons_append, List.append_assoc, List.nil_append]
    rw [hw, List.cons_append] at items ⊢
    rw [value?_openList open', items]
    rfl
  | fuel + 1, table [], ts, h => by simp [words, value?]
  | fuel + 1, table ((k, v) :: es), ts, h => by
    have enough : 2 * ((words v).length + (entryWords es).length) < fuel := by
      simp only [words, List.length_cons, List.length_append, List.length_nil] at h
      omega
    have entries := entries?_words fuel k v es ts enough
    rw [words]
    simp only [List.cons_append, List.append_assoc, List.nil_append, value?]
    rw [entries]
    rfl

theorem items?_words : ∀ (fuel : Nat) (v : Json) (vs : List Json) (ts : List Token),
    2 * ((words v).length + (itemWords vs).length) < fuel →
    items? fuel (words v ++ (itemWords vs ++ .closeList :: ts)) = some (v :: vs, ts)
  | 0, _, _, _, h => absurd h (Nat.not_lt_zero _)
  | fuel + 1, v, vs, ts, h => by
    have value := value?_words fuel v (itemWords vs ++ .closeList :: ts) (by omega)
    rw [items?, value]
    cases vs with
    | nil => rfl
    | cons w ws =>
      have enough : 2 * ((words w).length + (itemWords ws).length) < fuel := by
        simp only [itemWords, List.length_cons, List.length_append] at h
        omega
      have items := items?_words fuel w ws ts enough
      simp only [itemWords, List.cons_append, List.append_assoc, items]
      rfl

theorem entries?_words : ∀ (fuel : Nat) (k : String) (v : Json) (es : List (String × Json))
    (ts : List Token), 2 * ((words v).length + (entryWords es).length) < fuel →
    entries? fuel (.text k.toList :: .colon :: (words v ++ (entryWords es ++ .closeTable :: ts))) =
      some ((k, v) :: es, ts)
  | 0, _, _, _, _, h => absurd h (Nat.not_lt_zero _)
  | fuel + 1, k, v, es, ts, h => by
    have value := value?_words fuel v (entryWords es ++ .closeTable :: ts) (by omega)
    simp only [entries?, value, String.ofList_toList]
    cases es with
    | nil => rfl
    | cons e es =>
      obtain ⟨k', w⟩ := e
      have enough : 2 * ((words w).length + (entryWords es).length) < fuel := by
        simp only [entryWords, List.length_cons, List.length_append] at h
        omega
      have entries := entries?_words fuel k' w es ts enough
      simp only [entryWords, List.cons_append, List.append_assoc, entries]
      rfl

end

/-- A written value is read back, with whatever blanks behind it. -/
theorem ofText?_render {v : Json} (hv : v.IsWellWritten) {blanks : String}
    (hb : ∀ c ∈ blanks.toList, isBlank c = true) : ofText? (v.render ++ blanks) = some v := by
  have text : (v.render ++ blanks).toList = pretty 0 v ++ blanks.toList := by
    rw [render, String.toList_append, String.toList_ofList]
  have ends : EndsNumber blanks.toList := by
    intro c hc
    have blank := hb c (List.mem_of_mem_head? hc)
    simp only [isBlank, Bool.or_eq_true, decide_eq_true_eq] at blank
    rcases blank with ((rfl | rfl) | rfl) | rfl <;> decide
  have cut : CutInto (pretty 0 v ++ blanks.toList) (words v) := by
    have behind : CutInto (blanks.toList ++ []) [] := CutInto.blanks hb CutInto.nil
    rw [List.append_nil] at behind
    simpa using cutInto_pretty v 0 hv ends behind
  have tokens : tokens? ((v.render ++ blanks).length + 1) (v.render ++ blanks).toList =
      some (words v) := by
    rw [text]
    exact cut _ (by rw [← text, String.length_toList]; omega)
  have value := value?_words (2 * (words v).length + 1) v [] (by omega)
  rw [List.append_nil] at value
  simp only [ofText?, tokens, value]

end Json

end ArchLint
