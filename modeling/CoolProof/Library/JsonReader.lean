import CoolProof.Library.JsonText

/-! A reader of JSON texts. White space may stand between any two tokens, a string may use
every escape, and a surrogate only stands as half of a pair. The integer digits of a float
may begin with zeros. Reading inverts `JsonText.text`. -/

namespace JsonReader
open JsonDocument JsonText PythonText Binary64

def isJsonSpace (c : Char) : Bool := c == ' ' || c == '\t' || c == '\n' || c == '\r'

def skipSpace (cs : List Char) : List Char := cs.dropWhile isJsonSpace

/-! ## Characters of a string -/

def hexValue (c : Char) : Option Nat :=
  if c.isDigit then some (c.toNat - 0x30)
  else if 'a' ≤ c ∧ c ≤ 'f' then some (c.toNat - 0x57)
  else if 'A' ≤ c ∧ c ≤ 'F' then some (c.toNat - 0x37)
  else none

/-- A code unit written `\uXXXX`. -/
def readUnit : List Char → Option (Nat × List Char)
  | '\\' :: 'u' :: a :: b :: c :: d :: cs => do
      let a ← hexValue a
      let b ← hexValue b
      let c ← hexValue c
      let d ← hexValue d
      return (((a * 16 + b) * 16 + c) * 16 + d, cs)
  | _ => none

def isHigh (n : Nat) : Bool := 0xD800 ≤ n && n < 0xDC00

def isLow (n : Nat) : Bool := 0xDC00 ≤ n && n < 0xE000

/-- A character written as one unit, or as a surrogate pair. -/
def readUnits (cs : List Char) : Option (Char × List Char) :=
  match readUnit cs with
  | none => none
  | some (n, rest) =>
      if isHigh n then
        match readUnit rest with
        | some (low, rest) =>
            if isLow low then
              some (Char.ofNat (0x10000 + (n - 0xD800) * 0x400 + (low - 0xDC00)), rest)
            else none
        | none => none
      else if isLow n then none
      else some (Char.ofNat n, rest)

/-- What a backslash and one letter stand for. -/
def shortEscape : Char → Option Char
  | '"' => some '"'
  | '\\' => some '\\'
  | '/' => some '/'
  | 'b' => some (Char.ofNat 8)
  | 'f' => some (Char.ofNat 12)
  | 'n' => some '\n'
  | 'r' => some '\r'
  | 't' => some '\t'
  | _ => none

/-- One character of a string; control characters must be escaped. -/
def readChar : List Char → Option (Char × List Char)
  | '\\' :: 'u' :: cs => readUnits ('\\' :: 'u' :: cs)
  | '\\' :: c :: cs => (shortEscape c).map fun d => (d, cs)
  | '\\' :: [] => none
  | c :: cs => if 0x20 ≤ c.toNat then some (c, cs) else none
  | [] => none

/-- The characters up to the closing quotation mark. -/
def readChars : (fuel : Nat) → List Char → Option (List Char × List Char)
  | 0, _ => none
  | fuel + 1, cs =>
      match cs with
      | '"' :: cs => some ([], cs)
      | cs => (readChar cs).bind fun p => (readChars fuel p.2).map fun r => (p.1 :: r.1, r.2)

theorem hexValue_hexDigit : ∀ n < 16, hexValue (hexDigit n) = some n := by decide

theorem readUnit_escapeUnit (n : Nat) (small : n < 0x10000) (cs : List Char) :
    readUnit (escapeUnit n ++ cs) = some (n, cs) := by
  have four : hexText 4 n = [hexDigit (n / 16 / 16 / 16 % 16), hexDigit (n / 16 / 16 % 16),
      hexDigit (n / 16 % 16), hexDigit (n % 16)] := by simp [hexText]
  have digit : ∀ m, hexValue (hexDigit (m % 16)) = some (m % 16) :=
    fun m => hexValue_hexDigit _ (Nat.mod_lt _ (by decide))
  have value : ((n / 16 / 16 / 16 % 16 * 16 + n / 16 / 16 % 16) * 16 + n / 16 % 16) * 16 +
      n % 16 = n := by omega
  simp [escapeUnit, four, readUnit, digit, value]

theorem readUnits_unit (c : Char) (basic : c.toNat < 0x10000) (cs : List Char) :
    readUnits (escapeUnit c.toNat ++ cs) = some (c, cs) := by
  have range := char_toNat_range c
  have high : isHigh c.toNat = false := by simp [isHigh]; omega
  have low : isLow c.toNat = false := by simp [isLow]; omega
  simp [readUnits, readUnit_escapeUnit c.toNat basic, high, low, Char.ofNat_toNat]

theorem readUnits_surrogates {high low : Nat} (isHigh : isHigh high = true)
    (isLow : isLow low = true) (cs : List Char) :
    readUnits (escapeUnit high ++ (escapeUnit low ++ cs)) =
      some (Char.ofNat (0x10000 + (high - 0xD800) * 0x400 + (low - 0xDC00)), cs) := by
  have first : high < 0x10000 := by simp [JsonReader.isHigh] at isHigh; omega
  have second : low < 0x10000 := by simp [JsonReader.isLow] at isLow; omega
  simp only [readUnits, readUnit_escapeUnit high first, readUnit_escapeUnit low second, isHigh,
    isLow, if_true]

theorem readUnits_pair (c : Char) (astral : 0x10000 ≤ c.toNat) (cs : List Char) :
    readUnits (escapeUnit (0xD800 + (c.toNat - 0x10000) / 0x400) ++
      (escapeUnit (0xDC00 + (c.toNat - 0x10000) % 0x400) ++ cs)) = some (c, cs) := by
  have range := char_toNat_range c
  have high : isHigh (0xD800 + (c.toNat - 0x10000) / 0x400) = true := by
    rw [isHigh, Bool.and_eq_true, decide_eq_true_iff, decide_eq_true_iff]
    omega
  have low : isLow (0xDC00 + (c.toNat - 0x10000) % 0x400) = true := by
    rw [isLow, Bool.and_eq_true, decide_eq_true_iff, decide_eq_true_iff]
    omega
  have value : 0x10000 + (0xD800 + (c.toNat - 0x10000) / 0x400 - 0xD800) * 0x400 +
      (0xDC00 + (c.toNat - 0x10000) % 0x400 - 0xDC00) = c.toNat := by omega
  rw [readUnits_surrogates high low, value, Char.ofNat_toNat]

theorem readChar_units (n : Nat) (cs : List Char) :
    readChar (escapeUnit n ++ cs) = readUnits (escapeUnit n ++ cs) := by
  simp only [escapeUnit, List.cons_append, readChar]

theorem readChar_short : ∀ e ∈ shortEscapes, ∀ cs,
    readChar ('\\' :: e.1 :: cs) = some (e.2, cs) := by
  intro e member cs
  simp only [shortEscapes, List.mem_cons, List.not_mem_nil, or_false] at member
  rcases member with rfl | rfl | rfl | rfl | rfl | rfl | rfl <;> rfl

theorem readChar_escapeChar (c : Char) (cs : List Char) :
    readChar (escapeChar c ++ cs) = some (c, cs) := by
  have form := escapeForm c
  generalize escapeChar c = written at form
  cases form with
  | short listed => exact readChar_short _ listed cs
  | plain noQuote noBackslash printable =>
    rw [List.singleton_append]
    unfold readChar
    split <;> simp_all
  | unit basic => rw [readChar_units, readUnits_unit c basic]
  | pair astral => rw [List.append_assoc, readChar_units, readUnits_pair c astral]

theorem readChars_open {cs : List Char} (fuel : Nat) (inside : ∀ t, cs ≠ '"' :: t) :
    readChars (fuel + 1) cs =
      (readChar cs).bind fun p => (readChars fuel p.2).map fun r => (p.1 :: r.1, r.2) := by
  rw [readChars]
  exact inside

theorem readChars_escape (cs r : List Char) {fuel : Nat} (enough : cs.length < fuel) :
    readChars fuel (escape cs ++ '"' :: r) = some (cs, r) := by
  induction cs generalizing fuel with
  | nil =>
    cases fuel with
    | zero => cases enough
    | succ fuel => rfl
  | cons c cs ih =>
    cases fuel with
    | zero => cases enough
    | succ fuel =>
      have rest : readChars fuel (escape cs ++ '"' :: r) = some (cs, r) :=
        ih (Nat.lt_of_succ_lt_succ enough)
      rw [escape, List.append_assoc, readChars_open fuel (escapeChar_ne_quote c _),
        readChar_escapeChar, Option.bind_some, rest, Option.map_some]

/-! ## Numbers -/

/-- Digits without a needless zero in front. -/
def readNat (ds : List Char) : Option Nat :=
  if ds ≠ [] ∧ ds.all Char.isDigit = true ∧ (ds.head? = some '0' → ds = ['0']) then
    some (Nat.ofDigitChars 10 ds 0)
  else none

def readInt : List Char → Option Int
  | '-' :: ds => (readNat ds).map fun n : Nat => -(n : Int)
  | ds => (readNat ds).map Int.ofNat

def numeralChar (c : Char) : Bool := numberChar c || c == 'E'

/-- The exponent mark of a literal in the one letter case that is kept. -/
def lowerMark (c : Char) : Char := if c = 'E' then 'e' else c

def numeral (ns : List Char) : Option Json :=
  match readInt ns with
  | some n => some (.int n)
  | none =>
      if isFloatText ns then
        if wf : isShown (shown ns) = true then some (.float ⟨shown ns, wf⟩) else none
      else none

def readNumber (cs : List Char) : Option (Json × List Char) :=
  (numeral ((cs.takeWhile numeralChar).map lowerMark)).map fun j => (j, cs.dropWhile numeralChar)

/-- What may follow a value: nothing, or a character that no number has. -/
def Delimited (cs : List Char) : Prop := ∀ c ∈ cs.head?, numeralChar c = false

theorem delimited_cons {c : Char} (cs : List Char) (h : numeralChar c = false) :
    Delimited (c :: cs) := by simpa [Delimited] using h

theorem toDigits_head {n : Nat} (h : (Nat.toDigits 10 n).head? = some '0') :
    Nat.toDigits 10 n = ['0'] := by
  induction n using Nat.strongRecOn with
  | ind n ih =>
    rcases Nat.lt_or_ge n 10 with small | large
    · rw [Nat.toDigits_of_lt_base small] at h ⊢
      simpa using h
    · rw [Nat.toDigits_of_base_le (by decide) large,
        List.head?_append_of_ne_nil _ Nat.toDigits_ne_nil] at h
      have zero := ih (n / 10) (Nat.div_lt_self (by omega) (by decide)) h
      have positive : n / 10 ≠ 0 := by omega
      rw [← Nat.toDigits_zero 10] at zero
      exact absurd (toDigits_inj zero) positive

theorem readNat_toDigits (n : Nat) : readNat (Nat.toDigits 10 n) = some n := by
  have digits : (Nat.toDigits 10 n).all Char.isDigit = true :=
    List.all_eq_true.mpr fun c hc => isDigit_of_mem_toDigits hc
  rw [readNat, if_pos ⟨Nat.toDigits_ne_nil, digits, toDigits_head⟩, Nat.ofDigitChars_ten_toDigits]

theorem readInt_intText (n : Int) : readInt (intText n) = some n := by
  cases n with
  | ofNat n =>
    have unsigned : ∀ ds, Nat.toDigits 10 n = '-' :: ds → False := by
      intro ds eq
      have dash : '-' ∈ Nat.toDigits 10 n := by simp [eq]
      exact absurd (isDigit_of_mem_toDigits dash) (by decide)
    rw [intText, readInt, readNat_toDigits, Option.map_some]
    exact unsigned
  | negSucc n =>
    rw [intText, readInt, readNat_toDigits, Option.map_some]
    rfl

theorem readNat_digits {ds : List Char} {n : Nat} (h : readNat ds = some n) :
    ∀ c ∈ ds, c.isDigit = true := by
  unfold readNat at h
  split at h
  · rename_i read
    exact List.all_eq_true.mp read.2.1
  · cases h

theorem readInt_chars {cs : List Char} {n : Int} (h : readInt cs = some n) :
    ∀ c ∈ cs, c.isDigit = true ∨ c = '-' := by
  unfold readInt at h
  split at h
  all_goals obtain ⟨m, read, _⟩ := Option.map_eq_some_iff.mp h
  · rename_i ds
    intro c member
    rcases List.mem_cons.mp member with dash | digit
    · exact .inr dash
    · exact .inl (readNat_digits read c digit)
  · exact fun c member => .inl (readNat_digits read c member)

theorem numeral_intText (n : Int) : numeral (intText n) = some (.int n) := by
  rw [numeral, readInt_intText]

theorem numeral_float (x : FloatLiteral) : numeral x.text = some (.float x) := by
  have noInt : readInt x.text = none := by
    by_contra read
    obtain ⟨n, read⟩ := Option.ne_none_iff_exists'.mp read
    rcases (floatText_spec x).1 with point | exponent
    · exact absurd (readInt_chars read _ point) (by decide)
    · exact absurd (readInt_chars read _ exponent) (by decide)
  have same : shown x.text = x.text := shown_of_isShown x.wf
  have wf : isShown (shown x.text) = true := same.symm ▸ x.wf
  have again : (⟨shown x.text, wf⟩ : FloatLiteral) = x := by
    obtain ⟨cs, _⟩ := x
    exact FloatLiteral.mk.injEq _ _ _ _ ▸ same
  rw [numeral, noInt]
  dsimp only
  rw [if_pos x.isFloatText, dif_pos wf, again]

theorem readNumber_append {ns cs : List Char} {j : Json} (numeric : ∀ c ∈ ns, numberChar c = true)
    (read : numeral ns = some j) (delimited : Delimited cs) :
    readNumber (ns ++ cs) = some (j, cs) := by
  have numerals : ∀ c ∈ ns, numeralChar c = true := by
    intro c member
    simp [numeralChar, numeric c member]
  have stop : cs.takeWhile numeralChar = [] ∧ cs.dropWhile numeralChar = cs := by
    cases cs with
    | nil => exact ⟨rfl, rfl⟩
    | cons c cs => simp [delimited c (by simp)]
  have marks : ns.map lowerMark = ns := by
    refine (List.map_congr_left fun c member => ?_).trans (List.map_id ns)
    have other : c ≠ 'E' := by
      rintro rfl
      exact absurd (numeric _ member) (by decide)
    simp [lowerMark, other]
  rw [readNumber, List.takeWhile_append_of_pos numerals, List.dropWhile_append_of_pos numerals,
    stop.1, stop.2, List.append_nil, marks, read, Option.map_some]

/-! ## Documents -/

/-- A value that is neither a string nor a container. -/
def readScalar : List Char → Option (Json × List Char)
  | 'n' :: 'u' :: 'l' :: 'l' :: cs => some (.null, cs)
  | 't' :: 'r' :: 'u' :: 'e' :: cs => some (.bool true, cs)
  | 'f' :: 'a' :: 'l' :: 's' :: 'e' :: cs => some (.bool false, cs)
  | cs => readNumber cs

/-- A key and the colon after it. -/
def readKey (fuel : Nat) (cs : List Char) : Option (String × List Char) :=
  match skipSpace cs with
  | '"' :: cs =>
      match readChars fuel cs with
      | some (key, rest) =>
          match skipSpace rest with
          | ':' :: rest => some (String.ofList key, rest)
          | _ => none
      | none => none
  | _ => none

mutual

def readValue : (fuel : Nat) → List Char → Option (Json × List Char)
  | 0, _ => none
  | fuel + 1, cs =>
      match skipSpace cs with
      | '"' :: cs => (readChars fuel cs).map fun r => (.str (String.ofList r.1), r.2)
      | '[' :: cs => (readItems fuel cs).map fun r => (.arr r.1, r.2)
      | '{' :: cs => (readFields fuel cs).map fun r => (.obj r.1, r.2)
      | cs => readScalar cs

/-- The items of an array whose bracket is open. -/
def readItems : (fuel : Nat) → List Char → Option (List Json × List Char)
  | 0, _ => none
  | fuel + 1, cs =>
      match skipSpace cs with
      | ']' :: cs => some ([], cs)
      | cs => (readValue fuel cs).bind fun x =>
          (readItemsTail fuel x.2).map fun r => (x.1 :: r.1, r.2)

def readItemsTail : (fuel : Nat) → List Char → Option (List Json × List Char)
  | 0, _ => none
  | fuel + 1, cs =>
      match skipSpace cs with
      | ']' :: cs => some ([], cs)
      | ',' :: cs => (readValue fuel cs).bind fun x =>
          (readItemsTail fuel x.2).map fun r => (x.1 :: r.1, r.2)
      | _ => none

/-- The members of an object whose brace is open. -/
def readFields : (fuel : Nat) → List Char → Option (Dict × List Char)
  | 0, _ => none
  | fuel + 1, cs =>
      match skipSpace cs with
      | '}' :: cs => some ([], cs)
      | cs => (readKey fuel cs).bind fun k => (readValue fuel k.2).bind fun x =>
          (readFieldsTail fuel x.2).map fun r => ((k.1, x.1) :: r.1, r.2)

def readFieldsTail : (fuel : Nat) → List Char → Option (Dict × List Char)
  | 0, _ => none
  | fuel + 1, cs =>
      match skipSpace cs with
      | '}' :: cs => some ([], cs)
      | ',' :: cs => (readKey fuel cs).bind fun k => (readValue fuel k.2).bind fun x =>
          (readFieldsTail fuel x.2).map fun r => ((k.1, x.1) :: r.1, r.2)
      | _ => none

end

/-- The document of a text, `none` where the text is not JSON. -/
def loads (cs : List Char) : Option Json :=
  match readValue cs.length cs with
  | some (j, rest) => if skipSpace rest = [] then some j else none
  | none => none

example : loads "\x7b \"a\" : [1, -2.5E3, \"\\u00e9\\ud83d\\ude00\"] \x7d\n".toList =
    some (.obj [("a", .arr [.int 1, .float ⟨"-2500.0".toList, by decide +kernel⟩, .str "é😀"])]) := by
  decide +kernel
example : loads "\x7b\"a\":\"\\ud83d\"\x7d".toList = none := by decide +kernel

/-! ## Reading what was written -/

theorem skipSpace_cons {c : Char} (cs : List Char) (h : isJsonSpace c = false) :
    skipSpace (c :: cs) = c :: cs := by
  simp [skipSpace, h]

theorem length_escape (cs : List Char) : cs.length ≤ (escape cs).length := by
  have long : ∀ c, 1 ≤ (escapeChar c).length := by
    intro c
    have form := escapeForm c
    generalize escapeChar c = written at form
    cases form <;> simp [escapeUnit]
  induction cs with
  | nil => simp
  | cons c cs ih =>
    have first := long c
    rw [escape, List.length_append, List.length_cons]
    omega

theorem length_quote (s : String) : s.length + 2 ≤ (quote s).length := by
  have inside := length_escape s.toList
  rw [String.length_toList] at inside
  simp only [quote, List.length_cons, List.length_append, List.length_nil]
  omega

theorem text_length_pos (j : Json) : 1 ≤ (text j).length := by
  obtain ⟨c, cs, shown, _⟩ := text_lead j
  simp [shown]

theorem delimited_itemsTail (xs : List Json) (r : List Char) : Delimited (itemsTail xs ++ r) := by
  cases xs <;> exact delimited_cons _ (by decide)

theorem delimited_fieldsTail (fs : Dict) (r : List Char) : Delimited (fieldsTail fs ++ r) := by
  cases fs <;> exact delimited_cons _ (by decide)

theorem readKey_quote (key : String) (r : List Char) (fuel : Nat)
    (enough : (quote key).length ≤ fuel + 1) :
    readKey fuel (quote key ++ ':' :: r) = some (key, r) := by
  have length := length_quote key
  have inside : key.toList.length < fuel := by
    rw [String.length_toList]
    omega
  simp only [readKey, quote, List.cons_append, List.append_assoc, List.nil_append,
    skipSpace_cons _ (c := '"') (by decide), readChars_escape key.toList _ inside,
    skipSpace_cons _ (c := ':') (by decide), String.ofList_toList]

/-! How each reader goes on after the first character. -/

theorem readValue_string (fuel : Nat) (cs : List Char) : readValue (fuel + 1) ('"' :: cs) =
    (readChars fuel cs).map fun r => (.str (String.ofList r.1), r.2) := rfl

theorem readValue_array (fuel : Nat) (cs : List Char) : readValue (fuel + 1) ('[' :: cs) =
    (readItems fuel cs).map fun r => (.arr r.1, r.2) := rfl

theorem readValue_object (fuel : Nat) (cs : List Char) : readValue (fuel + 1) ('{' :: cs) =
    (readFields fuel cs).map fun r => (.obj r.1, r.2) := rfl

theorem readItemsTail_comma (fuel : Nat) (cs : List Char) : readItemsTail (fuel + 1) (',' :: cs) =
    (readValue fuel cs).bind fun x =>
      (readItemsTail fuel x.2).map fun r => (x.1 :: r.1, r.2) := rfl

theorem readFields_quote (fuel : Nat) (cs : List Char) : readFields (fuel + 1) ('"' :: cs) =
    (readKey fuel ('"' :: cs)).bind fun k => (readValue fuel k.2).bind fun x =>
      (readFieldsTail fuel x.2).map fun r => ((k.1, x.1) :: r.1, r.2) := rfl

theorem readFieldsTail_comma (fuel : Nat) (cs : List Char) :
    readFieldsTail (fuel + 1) (',' :: cs) =
      (readKey fuel cs).bind fun k => (readValue fuel k.2).bind fun x =>
        (readFieldsTail fuel x.2).map fun r => ((k.1, x.1) :: r.1, r.2) := rfl

theorem noSpace_of_lead {c : Char} (starts : leadOf c ≠ 7) : isJsonSpace c = false := by
  by_contra space
  simp only [isJsonSpace, Bool.not_eq_false, Bool.or_eq_true, beq_iff_eq] at space
  rcases space with ((rfl | rfl) | rfl) | rfl <;> exact starts (by decide)

theorem readItems_lead {c : Char} (fuel : Nat) (cs : List Char) (starts : leadOf c ≠ 7) :
    readItems (fuel + 1) (c :: cs) = (readValue fuel (c :: cs)).bind fun x =>
      (readItemsTail fuel x.2).map fun r => (x.1 :: r.1, r.2) := by
  rw [readItems, skipSpace_cons cs (noSpace_of_lead starts)]
  split
  · rename_i same
    cases same
    exact absurd (by decide) starts
  · rfl

/-- A text whose first character can start a number is read as one. -/
theorem readValue_number {c : Char} (fuel : Nat) (cs : List Char) (starts : leadOf c = 6) :
    readValue (fuel + 1) (c :: cs) = readNumber (c :: cs) := by
  have noSpace : isJsonSpace c = false := noSpace_of_lead (by rw [starts]; decide)
  rw [readValue, skipSpace_cons cs noSpace]
  split
  all_goals first
    | (rename_i same; cases same; exact absurd starts (by decide))
    | skip
  unfold readScalar
  split
  all_goals first
    | (rename_i same; cases same; exact absurd starts (by decide))
    | rfl

theorem readValue_numeral {ns : List Char} {j : Json} (fuel : Nat) (r : List Char)
    (nonempty : ns ≠ []) (numeric : ∀ c ∈ ns, numberChar c = true) (read : numeral ns = some j)
    (delimited : Delimited r) : readValue (fuel + 1) (ns ++ r) = some (j, r) := by
  obtain ⟨c, cs, shown, starts⟩ := leadOf_number nonempty numeric
  have number := readNumber_append numeric read delimited
  rw [shown, List.cons_append] at number ⊢
  rw [readValue_number fuel _ starts, number]

theorem length_itemsTail_pos (xs : List Json) : 1 ≤ (itemsTail xs).length := by
  cases xs <;> simp [itemsTail]

theorem length_fieldsTail_pos (fs : Dict) : 1 ≤ (fieldsTail fs).length := by
  cases fs <;> simp [fieldsTail]

mutual

theorem readValue_text : ∀ (j : Json) (fuel : Nat) (r : List Char), (text j).length ≤ fuel →
    Delimited r → readValue fuel (text j ++ r) = some (j, r)
  | j, 0, r, enough, _ => by
    have long := text_length_pos j
    omega
  | .null, fuel + 1, r, _, _ => rfl
  | .bool true, fuel + 1, r, _, _ => rfl
  | .bool false, fuel + 1, r, _, _ => rfl
  | .int n, fuel + 1, r, _, delimited =>
    readValue_numeral fuel r (intText_ne_nil n) intText_numeric (numeral_intText n) delimited
  | .float x, fuel + 1, r, _, delimited => by
    have nonempty : x.text ≠ [] := by
      intro empty
      have shown := (floatText_spec x).1
      simp [empty] at shown
    exact readValue_numeral fuel r nonempty (floatText_spec x).2 (numeral_float x) delimited
  | .str s, fuel + 1, r, enough, _ => by
    have length := length_quote s
    rw [text] at enough
    have inside : s.toList.length < fuel := by
      rw [String.length_toList]
      omega
    rw [text, quote, List.cons_append, List.append_assoc, readValue_string]
    rw [List.singleton_append, readChars_escape s.toList r inside, Option.map_some,
      String.ofList_toList]
  | .arr xs, fuel + 1, r, enough, _ => by
    rw [text, List.length_cons] at enough
    have read := readItems_items xs fuel r (by omega)
    rw [text, List.cons_append, readValue_array, read, Option.map_some]
  | .obj fs, fuel + 1, r, enough, _ => by
    rw [text, List.length_cons] at enough
    have read := readFields_fields fs fuel r (by omega)
    rw [text, List.cons_append, readValue_object, read, Option.map_some]

theorem readItems_items : ∀ (xs : List Json) (fuel : Nat) (r : List Char),
    (items xs).length ≤ fuel → readItems fuel (items xs ++ r) = some (xs, r)
  | [], 0, r, enough => by cases enough
  | [], fuel + 1, r, _ => rfl
  | x :: xs, 0, r, enough => by
    have tail := length_itemsTail_pos xs
    rw [items, List.length_append] at enough
    omega
  | x :: xs, fuel + 1, r, enough => by
    have long := text_length_pos x
    have tail := length_itemsTail_pos xs
    rw [items, List.length_append] at enough
    have head := readValue_text x fuel (itemsTail xs ++ r) (by omega) (delimited_itemsTail xs r)
    have rest := readItemsTail_itemsTail xs fuel r (by omega)
    obtain ⟨c, cs, shown, starts⟩ := text_lead x
    have starts : leadOf c ≠ 7 := by
      rw [starts]
      cases x with
      | bool b => cases b <;> simp [lead]
      | _ => simp [lead]
    rw [items, List.append_assoc]
    rw [shown, List.cons_append] at head ⊢
    rw [readItems_lead fuel _ starts, head, Option.bind_some, rest, Option.map_some]

theorem readItemsTail_itemsTail : ∀ (xs : List Json) (fuel : Nat) (r : List Char),
    (itemsTail xs).length ≤ fuel → readItemsTail fuel (itemsTail xs ++ r) = some (xs, r)
  | [], 0, r, enough => by cases enough
  | [], fuel + 1, r, _ => rfl
  | x :: xs, 0, r, enough => by cases enough
  | x :: xs, fuel + 1, r, enough => by
    have long := text_length_pos x
    rw [itemsTail, List.length_cons, List.length_append] at enough
    have head := readValue_text x fuel (itemsTail xs ++ r) (by omega) (delimited_itemsTail xs r)
    have rest := readItemsTail_itemsTail xs fuel r (by omega)
    rw [itemsTail, List.cons_append, List.append_assoc, readItemsTail_comma, head,
      Option.bind_some, rest, Option.map_some]

theorem readFields_fields : ∀ (fs : Dict) (fuel : Nat) (r : List Char),
    (fields fs).length ≤ fuel → readFields fuel (fields fs ++ r) = some (fs, r)
  | [], 0, r, enough => by cases enough
  | [], fuel + 1, r, _ => rfl
  | (k, x) :: fs, 0, r, enough => by
    rw [fields, quote, List.cons_append] at enough
    cases enough
  | (k, x) :: fs, fuel + 1, r, enough => by
    have length := length_fieldsTail_pos fs
    rw [fields, List.length_append, List.length_cons, List.length_append] at enough
    have key := readKey_quote k (text x ++ (fieldsTail fs ++ r)) fuel (by omega)
    have value := readValue_text x fuel (fieldsTail fs ++ r) (by omega) (delimited_fieldsTail fs r)
    have rest := readFieldsTail_fieldsTail fs fuel r (by omega)
    rw [fields, List.append_assoc, List.cons_append, List.append_assoc]
    rw [quote, List.cons_append] at key ⊢
    rw [readFields_quote, key, Option.bind_some, value, Option.bind_some, rest, Option.map_some]

theorem readFieldsTail_fieldsTail : ∀ (fs : Dict) (fuel : Nat) (r : List Char),
    (fieldsTail fs).length ≤ fuel → readFieldsTail fuel (fieldsTail fs ++ r) = some (fs, r)
  | [], 0, r, enough => by cases enough
  | [], fuel + 1, r, _ => rfl
  | (k, x) :: fs, 0, r, enough => by cases enough
  | (k, x) :: fs, fuel + 1, r, enough => by
    rw [fieldsTail, List.length_cons, List.length_append, List.length_cons,
      List.length_append] at enough
    have key := readKey_quote k (text x ++ (fieldsTail fs ++ r)) fuel (by omega)
    have value := readValue_text x fuel (fieldsTail fs ++ r) (by omega) (delimited_fieldsTail fs r)
    have rest := readFieldsTail_fieldsTail fs fuel r (by omega)
    rw [fieldsTail, List.cons_append, List.append_assoc, List.cons_append, List.append_assoc,
      readFieldsTail_comma, key, Option.bind_some, value, Option.bind_some, rest, Option.map_some]

end

/-- Reading a document's text gives the document back. -/
theorem loads_text (j : Json) : loads (text j) = some j := by
  have read := readValue_text j (text j).length [] (Nat.le_refl _) (by simp [Delimited])
  rw [List.append_nil] at read
  simp only [loads, read]
  rfl

end JsonReader
