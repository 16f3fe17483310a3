import CoolProof.Library.JsonDocument
import CoolProof.Library.PythonText

/-! The text a serializer writes for a JSON document: compact separators, sorted
keys, ASCII only. The main result is that the text determines the document up to
the order of keys, so a collision-free digest of the text identifies the document. -/

namespace JsonText
open JsonDocument PythonText Binary64

/-- `\uXXXX` for one UTF-16 code unit. -/
def escapeUnit (n : Nat) : List Char := '\\' :: 'u' :: hexText 4 n

/-- One character of a string literal, `ensure_ascii` style: printable ASCII stays,
the rest is escaped, with a surrogate pair above the basic plane. -/
def escapeChar (c : Char) : List Char :=
  if c = '"' then ['\\', '"']
  else if c = '\\' then ['\\', '\\']
  else if c = '\n' then ['\\', 'n']
  else if c = '\r' then ['\\', 'r']
  else if c = '\t' then ['\\', 't']
  else if c.toNat = 8 then ['\\', 'b']
  else if c.toNat = 12 then ['\\', 'f']
  else if 0x20 ≤ c.toNat ∧ c.toNat ≤ 0x7E then [c]
  else if c.toNat < 0x10000 then escapeUnit c.toNat
  else escapeUnit (0xD800 + (c.toNat - 0x10000) / 0x400) ++
    escapeUnit (0xDC00 + (c.toNat - 0x10000) % 0x400)

def escape : List Char → List Char
  | [] => []
  | c :: cs => escapeChar c ++ escape cs

def quote (s : String) : List Char := '"' :: (escape s.toList ++ ['"'])

mutual

def text : Json → List Char
  | .null => ['n', 'u', 'l', 'l']
  | .bool true => ['t', 'r', 'u', 'e']
  | .bool false => ['f', 'a', 'l', 's', 'e']
  | .int n => intText n
  | .float x => x.text
  | .str s => quote s
  | .arr xs => '[' :: items xs
  | .obj fs => '{' :: fields fs

def items : List Json → List Char
  | [] => [']']
  | x :: xs => text x ++ itemsTail xs

def itemsTail : List Json → List Char
  | [] => [']']
  | x :: xs => ',' :: (text x ++ itemsTail xs)

def fields : Dict → List Char
  | [] => ['}']
  | (k, x) :: fs => quote k ++ ':' :: (text x ++ fieldsTail fs)

def fieldsTail : Dict → List Char
  | [] => ['}']
  | (k, x) :: fs => ',' :: (quote k ++ ':' :: (text x ++ fieldsTail fs))

end

/-- `json.dumps(document, sort_keys=True, separators=(",", ":"))` -/
def dumps (j : Json) : String := String.ofList (text j.canon)

example : dumps (.obj [("b", .arr [.int (-3), .null]), ("a", .str "é\n")]) =
    "\x7b\"a\":\"\\u00e9\\n\",\"b\":[-3,null]\x7d" := by decide

/-! ## Strings -/

/-- Read one escaped code unit. -/
def readUnit : List Char → Option (Nat × List Char)
  | '\\' :: 'u' :: a :: b :: c :: d :: cs =>
      (readDigits 16 0 false [a, b, c, d]).map fun n => (n, cs)
  | _ => none

theorem readUnit_escapeUnit (n : Nat) (small : n < 0x10000) (cs : List Char) :
    readUnit (escapeUnit n ++ cs) = some (n, cs) := by
  have digits := readDigits_hexText 3 n (by simpa using small)
  have four : hexText 4 n = [hexDigit (n / 16 / 16 / 16 % 16), hexDigit (n / 16 / 16 % 16),
      hexDigit (n / 16 % 16), hexDigit (n % 16)] := by simp [hexText]
  rw [four] at digits
  simp [escapeUnit, four, readUnit, digits]

/-- A reader for `escapeChar`, used only to show that it is prefix free. -/
def unescape : List Char → Option (Nat × List Char)
  | '\\' :: '"' :: cs => some (0x22, cs)
  | '\\' :: '\\' :: cs => some (0x5C, cs)
  | '\\' :: 'n' :: cs => some (0x0A, cs)
  | '\\' :: 'r' :: cs => some (0x0D, cs)
  | '\\' :: 't' :: cs => some (0x09, cs)
  | '\\' :: 'b' :: cs => some (0x08, cs)
  | '\\' :: 'f' :: cs => some (0x0C, cs)
  | '\\' :: 'u' :: cs =>
      match readUnit ('\\' :: 'u' :: cs) with
      | some (n, rest) =>
          if 0xD800 ≤ n ∧ n < 0xDC00 then
            (readUnit rest).map fun low =>
              (0x10000 + (n - 0xD800) * 0x400 + (low.1 - 0xDC00), low.2)
          else some (n, rest)
      | none => none
  | c :: cs => some (c.toNat, cs)
  | [] => none

theorem unescape_unit (n : Nat) (small : n < 0x10000) (plain : ¬(0xD800 ≤ n ∧ n < 0xDC00))
    (cs : List Char) : unescape (escapeUnit n ++ cs) = some (n, cs) := by
  have read := readUnit_escapeUnit n small cs
  simp only [escapeUnit, List.cons_append] at read ⊢
  simp only [unescape, read, plain, if_false]

theorem unescape_pair (high low : Nat) (isHigh : 0xD800 ≤ high ∧ high < 0xDC00)
    (small : low < 0x10000) (cs : List Char) :
    unescape (escapeUnit high ++ (escapeUnit low ++ cs)) =
      some (0x10000 + (high - 0xD800) * 0x400 + (low - 0xDC00), cs) := by
  have first := readUnit_escapeUnit high (by omega) (escapeUnit low ++ cs)
  have second := readUnit_escapeUnit low small cs
  simp only [escapeUnit, List.cons_append] at first second ⊢
  simp only [unescape, first, isHigh, and_self, if_true, second, Option.map_some]

theorem char_toNat_range (c : Char) :
    c.toNat < 0xD800 ∨ (0xDFFF < c.toNat ∧ c.toNat < 0x110000) := c.valid

/-- The letters after a backslash, and what they stand for. -/
def shortEscapes : List (Char × Char) :=
  [('"', '"'), ('\\', '\\'), ('n', '\n'), ('r', '\r'), ('t', '\t'), ('b', Char.ofNat 8),
   ('f', Char.ofNat 12)]

/-- The four ways in which a character is written. -/
inductive EscapeForm (c : Char) : List Char → Prop
  | short {letter : Char} : (letter, c) ∈ shortEscapes → EscapeForm c ['\\', letter]
  | plain : c ≠ '"' → c ≠ '\\' → 0x20 ≤ c.toNat ∧ c.toNat ≤ 0x7E → EscapeForm c [c]
  | unit : c.toNat < 0x10000 → EscapeForm c (escapeUnit c.toNat)
  | pair : 0x10000 ≤ c.toNat → EscapeForm c (escapeUnit (0xD800 + (c.toNat - 0x10000) / 0x400) ++
      escapeUnit (0xDC00 + (c.toNat - 0x10000) % 0x400))

theorem escapeForm (c : Char) : EscapeForm c (escapeChar c) := by
  have known : ∀ n, c.toNat = n → c = Char.ofNat n := by
    rintro n rfl
    exact (Char.ofNat_toNat c).symm
  unfold escapeChar
  split_ifs with quoteMark backslash newline carriage tab backspace formFeed printable basic
  · subst quoteMark; exact .short (by decide)
  · subst backslash; exact .short (by decide)
  · subst newline; exact .short (by decide)
  · subst carriage; exact .short (by decide)
  · subst tab; exact .short (by decide)
  · rw [known 8 backspace]; exact .short (by decide)
  · rw [known 12 formFeed]; exact .short (by decide)
  · exact .plain quoteMark backslash printable
  · exact .unit basic
  · exact .pair (by omega)

theorem unescape_short : ∀ e ∈ shortEscapes, ∀ cs,
    unescape ('\\' :: e.1 :: cs) = some (e.2.toNat, cs) := by
  intro e member cs
  simp only [shortEscapes, List.mem_cons, List.not_mem_nil, or_false] at member
  rcases member with rfl | rfl | rfl | rfl | rfl | rfl | rfl <;> rfl

theorem unescape_escapeChar (c : Char) (cs : List Char) :
    unescape (escapeChar c ++ cs) = some (c.toNat, cs) := by
  have range := char_toNat_range c
  have form := escapeForm c
  generalize escapeChar c = written at form
  cases form with
  | short listed => exact unescape_short _ listed cs
  | plain noQuote noBackslash printable =>
    rw [List.singleton_append]
    unfold unescape
    split <;> simp_all
  | unit basic => exact unescape_unit _ basic (by omega) cs
  | pair astral =>
    have value : 0x10000 + (0xD800 + (c.toNat - 0x10000) / 0x400 - 0xD800) * 0x400 +
        (0xDC00 + (c.toNat - 0x10000) % 0x400 - 0xDC00) = c.toNat := by omega
    rw [List.append_assoc, unescape_pair _ _ (by omega) (by omega), value]

theorem escapeChar_append_inj {c d : Char} {r t : List Char}
    (h : escapeChar c ++ r = escapeChar d ++ t) : c = d ∧ r = t := by
  have read := congrArg unescape h
  rw [unescape_escapeChar, unescape_escapeChar] at read
  have pair := Prod.mk.inj (Option.some.inj read)
  exact ⟨Char.toNat_inj.mp pair.1, pair.2⟩

theorem escapeChar_ne_quote (c : Char) (r t : List Char) : escapeChar c ++ r ≠ '"' :: t := by
  have form := escapeForm c
  generalize escapeChar c = written at form
  intro same
  cases form with
  | short => exact absurd (List.cons.inj same).1 (by decide)
  | plain noQuote => exact noQuote (List.cons.inj same).1
  | unit => exact absurd (List.cons.inj same).1 (by decide)
  | pair => exact absurd (List.cons.inj same).1 (by decide)

theorem escape_append_inj {cs ds : List Char} {r t : List Char}
    (h : escape cs ++ '"' :: r = escape ds ++ '"' :: t) : cs = ds ∧ r = t := by
  induction cs generalizing ds with
  | nil =>
    cases ds with
    | nil => simpa [escape] using h
    | cons d ds =>
      rw [escape, escape, List.nil_append, List.append_assoc] at h
      exact absurd h.symm (escapeChar_ne_quote d _ _)
  | cons c cs ih =>
    cases ds with
    | nil =>
      rw [escape, escape, List.nil_append, List.append_assoc] at h
      exact absurd h (escapeChar_ne_quote c _ _)
    | cons d ds =>
      rw [escape, escape, List.append_assoc, List.append_assoc] at h
      obtain ⟨sameHead, rest⟩ := escapeChar_append_inj h
      obtain ⟨sameTail, after⟩ := ih rest
      exact ⟨by rw [sameHead, sameTail], after⟩

theorem quote_append_inj {s u : String} {r t : List Char} (h : quote s ++ r = quote u ++ t) :
    s = u ∧ r = t := by
  simp only [quote, List.cons_append, List.append_assoc, List.cons.injEq, true_and] at h
  obtain ⟨same, rest⟩ := escape_append_inj h
  exact ⟨String.toList_inj.mp same, rest⟩

/-! ## Numbers -/

def numberChar (c : Char) : Bool := c.isDigit || c == '-' || c == '+' || c == '.' || c == 'e'

/-- What may follow a value inside a document: nothing, a comma or a closing bracket. -/
def Boundary (cs : List Char) : Prop := ∀ c ∈ cs.head?, numberChar c = false

theorem boundary_cons {c : Char} (cs : List Char) (h : numberChar c = false) :
    Boundary (c :: cs) := by simpa [Boundary] using h

theorem takeWhile_append_boundary {ns cs : List Char} (numeric : ∀ c ∈ ns, numberChar c = true)
    (boundary : Boundary cs) : (ns ++ cs).takeWhile numberChar = ns := by
  have stop : cs.takeWhile numberChar = [] := by
    cases cs with
    | nil => rfl
    | cons c cs => simp [boundary c (by simp)]
  rw [List.takeWhile_append_of_pos numeric, stop, List.append_nil]

/-- Numeric texts before a boundary are read off uniquely. -/
theorem number_append_inj {ms ns cs ds : List Char} (hm : ∀ c ∈ ms, numberChar c = true)
    (hn : ∀ c ∈ ns, numberChar c = true) (hc : Boundary cs) (hd : Boundary ds)
    (h : ms ++ cs = ns ++ ds) : ms = ns ∧ cs = ds := by
  have same : ms = ns := by
    have taken := congrArg (List.takeWhile numberChar) h
    rwa [takeWhile_append_boundary hm hc, takeWhile_append_boundary hn hd] at taken
  subst same
  exact ⟨rfl, List.append_cancel_left h⟩

theorem toDigits_inj {m n : Nat} (h : Nat.toDigits 10 m = Nat.toDigits 10 n) : m = n := by
  have value := congrArg (fun ds => Nat.ofDigitChars 10 ds 0) h
  simpa only [Nat.ofDigitChars_ten_toDigits] using value

theorem isDigit_of_mem_toDigits {n : Nat} {c : Char} (h : c ∈ Nat.toDigits 10 n) :
    c.isDigit = true := Nat.isDigit_of_mem_toDigits (by decide) (by decide) h

theorem intText_inj {m n : Int} (h : intText m = intText n) : m = n := by
  have noDash : ∀ k l : Nat, Nat.toDigits 10 k ≠ '-' :: Nat.toDigits 10 l := by
    intro k l eq
    have dash : '-' ∈ Nat.toDigits 10 k := by simp [eq]
    exact absurd (isDigit_of_mem_toDigits dash) (by decide)
  cases m with
  | ofNat m =>
    cases n with
    | ofNat n => rw [toDigits_inj h]
    | negSucc n => exact absurd h (noDash _ _)
  | negSucc m =>
    cases n with
    | ofNat n => exact absurd h.symm (noDash _ _)
    | negSucc n =>
      have same := toDigits_inj (List.cons.inj h).2
      rw [Nat.succ.inj same]

theorem intText_chars {n : Int} {c : Char} (h : c ∈ intText n) : c.isDigit = true ∨ c = '-' := by
  cases n with
  | ofNat n => exact .inl (isDigit_of_mem_toDigits h)
  | negSucc n =>
    rcases List.mem_cons.mp h with dash | digit
    · exact .inr dash
    · exact .inl (isDigit_of_mem_toDigits digit)

theorem intText_numeric {n : Int} : ∀ c ∈ intText n, numberChar c = true := by
  intro c hc
  rcases intText_chars hc with digit | dash
  · simp [numberChar, digit]
  · simp [numberChar, dash]

theorem intText_ne_nil (n : Int) : intText n ≠ [] := by
  cases n with
  | ofNat n => exact Nat.toDigits_ne_nil
  | negSucc n => simp [intText]

theorem isExponent_spec {cs : List Char} (h : isExponent cs = true) :
    'e' ∈ cs ∧ ∀ c ∈ cs, numberChar c = true := by
  have digits : ∀ ds : List Char, ds.all Char.isDigit = true → ∀ c ∈ ds, numberChar c = true := by
    intro ds all c hc
    simp [numberChar, List.all_eq_true.mp all c hc]
  unfold isExponent at h
  split at h
  all_goals simp only [Bool.and_eq_true, Bool.false_eq_true] at h
  all_goals
    refine ⟨by simp, ?_⟩
    intro c hc
    have tail := digits _ h.2 c
    simp only [List.mem_cons] at hc
    grind [numberChar]

theorem numeric_of_dropWhile {cs : List Char}
    (h : ∀ c ∈ cs.dropWhile Char.isDigit, numberChar c = true) :
    ∀ c ∈ cs, numberChar c = true := by
  intro c hc
  rw [← List.takeWhile_append_dropWhile (p := Char.isDigit) (l := cs)] at hc
  rcases List.mem_append.mp hc with front | back
  · simp [numberChar, List.all_eq_true.mp List.all_takeWhile c front]
  · exact h c back

theorem isFraction_spec {cs : List Char} (h : isFraction cs = true) :
    ('.' ∈ cs ∨ 'e' ∈ cs) ∧ ∀ c ∈ cs, numberChar c = true := by
  unfold isFraction at h
  split at h
  · rename_i cs
    refine ⟨by simp, ?_⟩
    intro c hc
    rcases List.mem_cons.mp hc with point | rest
    · simp [point, numberChar]
    · refine numeric_of_dropWhile ?_ c rest
      intro d hd
      simp only [Bool.and_eq_true, Bool.or_eq_true, List.isEmpty_iff] at h
      rcases h.2 with empty | exponent
      · simp [empty] at hd
      · exact (isExponent_spec exponent).2 d hd
  · exact ⟨.inr (isExponent_spec h).1, (isExponent_spec h).2⟩

theorem dropSign_cases (cs : List Char) : dropSign cs = cs ∨ cs = '-' :: dropSign cs := by
  unfold dropSign
  split
  · exact .inr rfl
  · exact .inl rfl

/-- A float literal is numeric, not empty, and shows a point or an exponent. -/
theorem floatText_spec (x : FloatLiteral) :
    ('.' ∈ x.text ∨ 'e' ∈ x.text) ∧ ∀ c ∈ x.text, numberChar c = true := by
  have wf := x.isFloatText
  obtain ⟨cs, _⟩ := x
  simp only [isFloatText, Bool.and_eq_true] at wf
  obtain ⟨shown, numeric⟩ := isFraction_spec wf.2
  have tailNumeric := numeric_of_dropWhile numeric
  have suffix := List.dropWhile_suffix (l := dropSign cs) Char.isDigit
  have tailShown : '.' ∈ dropSign cs ∨ 'e' ∈ dropSign cs :=
    shown.imp (fun h => suffix.subset h) (fun h => suffix.subset h)
  rcases dropSign_cases cs with same | signed
  · rw [same] at tailNumeric tailShown
    exact ⟨tailShown, tailNumeric⟩
  · have chars : ∀ c, c ∈ cs ↔ c = '-' ∨ c ∈ dropSign cs := by
      intro c
      rw [← List.mem_cons, ← signed]
    refine ⟨tailShown.imp (fun h => (chars _).mpr (.inr h)) (fun h => (chars _).mpr (.inr h)), ?_⟩
    intro c hc
    rcases (chars c).mp hc with dash | rest
    · simp [dash, numberChar]
    · exact tailNumeric c rest

theorem intText_ne_floatText (n : Int) (x : FloatLiteral) : intText n ≠ x.text := by
  intro h
  have shown := (floatText_spec x).1
  rw [← h] at shown
  rcases shown with point | exponent
  · exact absurd (intText_chars point) (by decide)
  · exact absurd (intText_chars exponent) (by decide)

/-! ## Documents -/

/-- The class of a value that its first character shows; both kinds of number share one. -/
def leadOf : Char → Nat
  | 'n' => 0
  | 't' => 1
  | 'f' => 2
  | '"' => 3
  | '[' => 4
  | '{' => 5
  | c => if numberChar c then 6 else 7

def lead : Json → Nat
  | .null => 0
  | .bool true => 1
  | .bool false => 2
  | .str _ => 3
  | .arr _ => 4
  | .obj _ => 5
  | .int _ | .float _ => 6

theorem leadOf_number {cs : List Char} (nonempty : cs ≠ [])
    (numeric : ∀ c ∈ cs, numberChar c = true) : ∃ c ds, cs = c :: ds ∧ leadOf c = 6 := by
  obtain ⟨c, ds, rfl⟩ := List.exists_cons_of_ne_nil nonempty
  refine ⟨c, ds, rfl, ?_⟩
  have hc := numeric c (by simp)
  unfold leadOf
  split <;> first | exact absurd hc (by decide) | simp [hc]

theorem text_lead (a : Json) : ∃ c cs, text a = c :: cs ∧ leadOf c = lead a := by
  cases a with
  | null => exact ⟨_, _, rfl, rfl⟩
  | bool b => cases b <;> exact ⟨_, _, rfl, rfl⟩
  | int n => simpa [text, lead] using leadOf_number (intText_ne_nil n) intText_numeric
  | float x =>
    have nonempty : x.text ≠ [] := by
      intro empty
      have shown := (floatText_spec x).1
      simp [empty] at shown
    simpa [text, lead] using leadOf_number nonempty (floatText_spec x).2
  | str s => exact ⟨_, _, rfl, rfl⟩
  | arr xs => exact ⟨_, _, rfl, rfl⟩
  | obj fs => exact ⟨_, _, rfl, rfl⟩

theorem lead_eq {a b : Json} {r t : List Char} (h : text a ++ r = text b ++ t) :
    lead a = lead b := by
  obtain ⟨c, cs, ha, la⟩ := text_lead a
  obtain ⟨d, ds, hb, lb⟩ := text_lead b
  rw [ha, hb, List.cons_append, List.cons_append] at h
  rw [← la, ← lb, (List.cons.inj h).1]

/-- No value starts with a closing bracket. -/
theorem text_ne_close (a : Json) {c : Char} (r t : List Char) (close : leadOf c = 7) :
    text a ++ r ≠ c :: t := by
  intro h
  obtain ⟨d, ds, ha, la⟩ := text_lead a
  rw [ha, List.cons_append] at h
  have same := la.symm.trans (congrArg leadOf (List.cons.inj h).1)
  rw [close] at same
  cases a with
  | bool v => cases v <;> simp [lead] at same
  | _ => simp [lead] at same

theorem boundary_itemsTail (xs : List Json) (r : List Char) : Boundary (itemsTail xs ++ r) := by
  cases xs <;> exact boundary_cons _ (by decide)

theorem boundary_fieldsTail (fs : Dict) (r : List Char) : Boundary (fieldsTail fs ++ r) := by
  cases fs <;> exact boundary_cons _ (by decide)

mutual

/-- A document's text before a boundary determines the document and what follows. -/
theorem text_append_inj : ∀ (a b : Json) (r t : List Char), Boundary r → Boundary t →
    text a ++ r = text b ++ t → a = b ∧ r = t
  | .null, b, r, t, _, _, h => by
    have same := lead_eq h
    cases b with
    | null => exact ⟨rfl, List.append_cancel_left h⟩
    | bool v => cases v <;> simp [lead] at same
    | _ => simp [lead] at same
  | .bool u, b, r, t, _, _, h => by
    have same := lead_eq h
    cases b with
    | bool v =>
      cases u <;> cases v <;> simp [lead] at same
      all_goals exact ⟨rfl, List.append_cancel_left h⟩
    | _ => cases u <;> simp [lead] at same
  | .int m, b, r, t, hr, ht, h => by
    have same := lead_eq h
    cases b with
    | int n =>
      obtain ⟨number, rest⟩ := number_append_inj intText_numeric intText_numeric hr ht h
      exact ⟨by rw [intText_inj number], rest⟩
    | float y =>
      obtain ⟨number, _⟩ := number_append_inj intText_numeric (floatText_spec y).2 hr ht h
      exact absurd number (intText_ne_floatText m y)
    | bool v => cases v <;> simp [lead] at same
    | _ => simp [lead] at same
  | .float x, b, r, t, hr, ht, h => by
    have same := lead_eq h
    cases b with
    | int n =>
      obtain ⟨number, _⟩ := number_append_inj (floatText_spec x).2 intText_numeric hr ht h
      exact absurd number.symm (intText_ne_floatText n x)
    | float y =>
      obtain ⟨number, rest⟩ :=
        number_append_inj (floatText_spec x).2 (floatText_spec y).2 hr ht h
      obtain ⟨xs, wfx⟩ := x
      obtain ⟨ys, wfy⟩ := y
      cases number
      exact ⟨rfl, rest⟩
    | bool v => cases v <;> simp [lead] at same
    | _ => simp [lead] at same
  | .str s, b, r, t, _, _, h => by
    have same := lead_eq h
    cases b with
    | str u =>
      obtain ⟨quoted, rest⟩ := quote_append_inj h
      exact ⟨by rw [quoted], rest⟩
    | bool v => cases v <;> simp [lead] at same
    | _ => simp [lead] at same
  | .arr xs, b, r, t, _, _, h => by
    have same := lead_eq h
    cases b with
    | arr ys =>
      obtain ⟨items, rest⟩ := items_append_inj xs ys r t (List.cons.inj h).2
      exact ⟨by rw [items], rest⟩
    | bool v => cases v <;> simp [lead] at same
    | _ => simp [lead] at same
  | .obj fs, b, r, t, _, _, h => by
    have same := lead_eq h
    cases b with
    | obj gs =>
      obtain ⟨fields, rest⟩ := fields_append_inj fs gs r t (List.cons.inj h).2
      exact ⟨by rw [fields], rest⟩
    | bool v => cases v <;> simp [lead] at same
    | _ => simp [lead] at same

theorem items_append_inj : ∀ (xs ys : List Json) (r t : List Char),
    items xs ++ r = items ys ++ t → xs = ys ∧ r = t
  | [], [], r, t, h => ⟨rfl, List.append_cancel_left h⟩
  | [], y :: ys, r, t, h => by
    rw [items, items, List.append_assoc] at h
    exact absurd h.symm (text_ne_close y _ _ rfl)
  | x :: xs, [], r, t, h => by
    rw [items, items, List.append_assoc] at h
    exact absurd h (text_ne_close x _ _ rfl)
  | x :: xs, y :: ys, r, t, h => by
    rw [items, items, List.append_assoc, List.append_assoc] at h
    obtain ⟨head, rest⟩ :=
      text_append_inj x y _ _ (boundary_itemsTail xs r) (boundary_itemsTail ys t) h
    obtain ⟨tail, after⟩ := itemsTail_append_inj xs ys r t rest
    exact ⟨by rw [head, tail], after⟩

theorem itemsTail_append_inj : ∀ (xs ys : List Json) (r t : List Char),
    itemsTail xs ++ r = itemsTail ys ++ t → xs = ys ∧ r = t
  | [], [], r, t, h => ⟨rfl, List.append_cancel_left h⟩
  | [], y :: ys, r, t, h => by simp [itemsTail] at h
  | x :: xs, [], r, t, h => by simp [itemsTail] at h
  | x :: xs, y :: ys, r, t, h => by
    simp only [itemsTail, List.cons_append, List.append_assoc, List.cons.injEq, true_and] at h
    obtain ⟨head, rest⟩ :=
      text_append_inj x y _ _ (boundary_itemsTail xs r) (boundary_itemsTail ys t) h
    obtain ⟨tail, after⟩ := itemsTail_append_inj xs ys r t rest
    exact ⟨by rw [head, tail], after⟩

theorem fields_append_inj : ∀ (fs gs : Dict) (r t : List Char),
    fields fs ++ r = fields gs ++ t → fs = gs ∧ r = t
  | [], [], r, t, h => ⟨rfl, List.append_cancel_left h⟩
  | [], (_, _) :: _, r, t, h => by simp [fields, quote] at h
  | (_, _) :: _, [], r, t, h => by simp [fields, quote] at h
  | (k, x) :: fs, (l, y) :: gs, r, t, h => by
    simp only [fields, List.cons_append, List.append_assoc] at h
    obtain ⟨key, colon⟩ := quote_append_inj h
    have value := (List.cons.inj colon).2
    obtain ⟨head, rest⟩ :=
      text_append_inj x y _ _ (boundary_fieldsTail fs r) (boundary_fieldsTail gs t) value
    obtain ⟨tail, after⟩ := fieldsTail_append_inj fs gs r t rest
    exact ⟨by rw [key, head, tail], after⟩

theorem fieldsTail_append_inj : ∀ (fs gs : Dict) (r t : List Char),
    fieldsTail fs ++ r = fieldsTail gs ++ t → fs = gs ∧ r = t
  | [], [], r, t, h => ⟨rfl, List.append_cancel_left h⟩
  | [], (_, _) :: _, r, t, h => by simp [fieldsTail] at h
  | (_, _) :: _, [], r, t, h => by simp [fieldsTail] at h
  | (k, x) :: fs, (l, y) :: gs, r, t, h => by
    simp only [fieldsTail, List.cons_append, List.append_assoc, List.cons.injEq, true_and] at h
    obtain ⟨key, colon⟩ := quote_append_inj h
    have value := (List.cons.inj colon).2
    obtain ⟨head, rest⟩ :=
      text_append_inj x y _ _ (boundary_fieldsTail fs r) (boundary_fieldsTail gs t) value
    obtain ⟨tail, after⟩ := fieldsTail_append_inj fs gs r t rest
    exact ⟨by rw [key, head, tail], after⟩

end

/-- Serialized text determines a document up to the order of its keys. -/
theorem dumps_eq_iff (a b : Json) : dumps a = dumps b ↔ Same a b := by
  constructor
  · intro h
    have texts : text a.canon = text b.canon := by
      simpa [dumps] using congrArg String.toList h
    have boundary : Boundary [] := by simp [Boundary]
    exact (text_append_inj a.canon b.canon [] [] boundary boundary (by simpa using texts)).1
  · intro h
    rw [dumps, dumps, h]

/-! ## Characters of the text -/

/-- Printable ASCII; what ends a line is not among it. -/
def Printable (c : Char) : Prop := 0x20 ≤ c.toNat ∧ c.toNat ≤ 0x7E

theorem printable_hexDigit : ∀ n < 16, Printable (hexDigit n) := by
  unfold Printable
  decide

theorem printable_escapeUnit (n : Nat) : ∀ c ∈ escapeUnit n, Printable c := by
  intro c member
  simp only [escapeUnit, List.mem_cons] at member
  rcases member with rfl | rfl | digit
  · simp [Printable]
  · simp [Printable]
  · obtain ⟨d, small, rfl⟩ := mem_hexText digit
    exact printable_hexDigit d small

theorem printable_short : ∀ e ∈ shortEscapes, Printable e.1 := by
  unfold Printable
  decide

theorem printable_escapeChar (c : Char) : ∀ d ∈ escapeChar c, Printable d := by
  have backslash : Printable '\\' := by simp [Printable]
  have form := escapeForm c
  generalize escapeChar c = written at form
  cases form with
  | short listed =>
    exact List.forall_mem_cons.mpr
      ⟨backslash, List.forall_mem_singleton.mpr (printable_short _ listed)⟩
  | plain noQuote noBackslash printable => exact List.forall_mem_singleton.mpr printable
  | unit => exact printable_escapeUnit _
  | pair =>
    exact List.forall_mem_append.mpr ⟨printable_escapeUnit _, printable_escapeUnit _⟩

theorem printable_escape (cs : List Char) : ∀ d ∈ escape cs, Printable d := by
  induction cs with
  | nil => simp [escape]
  | cons c cs ih => exact List.forall_mem_append.mpr ⟨printable_escapeChar c, ih⟩

theorem printable_quote (s : String) : ∀ d ∈ quote s, Printable d := by
  have mark : Printable '"' := by simp [Printable]
  refine List.forall_mem_cons.mpr ⟨mark, List.forall_mem_append.mpr ⟨printable_escape _, ?_⟩⟩
  simpa using mark

theorem printable_of_numberChar {c : Char} (numeric : numberChar c = true) : Printable c := by
  simp only [numberChar, Char.isDigit, Bool.or_eq_true, Bool.and_eq_true, decide_eq_true_eq,
    beq_iff_eq] at numeric
  rcases numeric with (((⟨low, high⟩ | rfl) | rfl) | rfl) | rfl
  · exact ⟨Nat.le_trans (by decide) low, Nat.le_trans high (by decide)⟩
  all_goals simp [Printable]

mutual

theorem printable_text : ∀ (j : Json), ∀ d ∈ text j, Printable d
  | .null => by simp [text, Printable]
  | .bool true => by simp [text, Printable]
  | .bool false => by simp [text, Printable]
  | .int _ => fun d member => printable_of_numberChar (intText_numeric d member)
  | .float x => fun d member => printable_of_numberChar ((floatText_spec x).2 d member)
  | .str s => printable_quote s
  | .arr xs => List.forall_mem_cons.mpr ⟨by simp [Printable], printable_items xs⟩
  | .obj fs => List.forall_mem_cons.mpr ⟨by simp [Printable], printable_fields fs⟩

theorem printable_items : ∀ (xs : List Json), ∀ d ∈ items xs, Printable d
  | [] => by simp [items, Printable]
  | x :: xs => List.forall_mem_append.mpr ⟨printable_text x, printable_itemsTail xs⟩

theorem printable_itemsTail : ∀ (xs : List Json), ∀ d ∈ itemsTail xs, Printable d
  | [] => by simp [itemsTail, Printable]
  | x :: xs => List.forall_mem_cons.mpr ⟨by simp [Printable],
      List.forall_mem_append.mpr ⟨printable_text x, printable_itemsTail xs⟩⟩

theorem printable_fields : ∀ (fs : Dict), ∀ d ∈ fields fs, Printable d
  | [] => by simp [fields, Printable]
  | (k, x) :: fs => List.forall_mem_append.mpr ⟨printable_quote k,
      List.forall_mem_cons.mpr ⟨by simp [Printable],
        List.forall_mem_append.mpr ⟨printable_text x, printable_fieldsTail fs⟩⟩⟩

theorem printable_fieldsTail : ∀ (fs : Dict), ∀ d ∈ fieldsTail fs, Printable d
  | [] => by simp [fieldsTail, Printable]
  | (k, x) :: fs => List.forall_mem_cons.mpr ⟨by simp [Printable],
      List.forall_mem_append.mpr ⟨printable_quote k, List.forall_mem_cons.mpr ⟨by simp [Printable],
        List.forall_mem_append.mpr ⟨printable_text x, printable_fieldsTail fs⟩⟩⟩⟩

end

end JsonText
