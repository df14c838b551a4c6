import TboxSec.Lib.JsonText

/-!
# The compact text of a document

A JSON library that prints a document without spaces and with the keys of its objects in order,
and reads such texts back.

* **Items.** A list is printed with commas between its elements and a closing character behind
  them. A reader of one element gives a reader of the list (`items_commas`).
* **Quoted texts.** Quotes, backslashes and control characters are escaped.
* **Documents.** `printChars` prints the fields as they stand, and `readValue` reads the same
  document again (`readValue_printChars`). Sorting the keys first keeps the document up to the
  order of its fields, so the library as a whole is lawful (`compact_lawful`).
-/

namespace TboxSec.JsonPrint

/-! ### Items -/

section Items

variable {α : Type}

/-- The texts with commas between them. -/
def commas : List (List Char) → List Char
  | [] => []
  | [t] => t
  | t :: u :: ts => t ++ ',' :: commas (u :: ts)

/-- One item and the items behind it, up to the closing character. -/
def items (item : List Char → Option (α × List Char)) (close : Char) :
    ℕ → List Char → Option (List α × List Char)
  | 0, _ => none
  | fuel + 1, cs => (item cs).bind fun r =>
      match r.2 with
      | [] => none
      | c :: rest =>
        if c = close then some ([r.1], rest)
        else if c = ',' then (items item close fuel rest).map fun s => (r.1 :: s.1, s.2)
        else none

/-- The items up to the closing character, which may come at once. -/
def sequence (item : List Char → Option (α × List Char)) (close : Char) (fuel : ℕ) :
    List Char → Option (List α × List Char)
  | [] => none
  | c :: cs => if c = close then some ([], cs) else items item close fuel (c :: cs)

/-- What ends an item. -/
def Ends (close : Char) (rest : List Char) : Prop :=
  ∃ c rest', rest = c :: rest' ∧ (c = close ∨ c = ',')

variable {item : List Char → Option (α × List Char)} {close : Char} {text : α → List Char}

/-- A printed list is read back element by element, by induction on the list, if its elements are
read back behind a comma and before the closing character. -/
private theorem items_commas (hclose : close ≠ ',') :
    ∀ {l : List α} (fuel : ℕ) (rest : List Char), l ≠ [] → l.length ≤ fuel →
      (∀ a ∈ l, ∀ rest, Ends close rest → item (text a ++ rest) = some (a, rest)) →
      items item close fuel (commas (l.map text) ++ close :: rest) = some (l, rest) := by
  intro l
  induction l with
  | nil => exact fun _ _ h => absurd rfl h
  | cons a l ih =>
    intro fuel rest _ hfuel hitem
    obtain ⟨fuel, rfl⟩ := Nat.exists_eq_add_of_le' (Nat.lt_of_lt_of_le (Nat.succ_pos _) hfuel)
    rcases l with - | ⟨b, l⟩
    · rw [List.map_cons, List.map_nil, commas, items,
        hitem a List.mem_cons_self _ ⟨close, rest, rfl, .inl rfl⟩, Option.bind_some]
      exact if_pos rfl
    · have hrest := ih fuel rest (List.cons_ne_nil b l) (Nat.le_of_succ_le_succ hfuel)
        fun x hx => hitem x (List.mem_cons_of_mem a hx)
      rw [List.map_cons] at hrest ⊢
      rw [List.map_cons, commas, List.append_assoc, List.cons_append, items,
        hitem a List.mem_cons_self _ ⟨',', _, rfl, .inr rfl⟩, Option.bind_some]
      simp only [Ne.symm hclose, if_false, if_true]
      rw [hrest]
      rfl

/-- **A sequence is read again**, if none of its items begins like its end. -/
theorem sequence_commas (hclose : close ≠ ',') {l : List α} {fuel : ℕ} {rest : List Char}
    (hfuel : l.length ≤ fuel) (hhead : ∀ a ∈ l, ∃ c cs, text a = c :: cs ∧ c ≠ close)
    (hitem : ∀ a ∈ l, ∀ rest, Ends close rest → item (text a ++ rest) = some (a, rest)) :
    sequence item close fuel (commas (l.map text) ++ close :: rest) = some (l, rest) := by
  rcases l with - | ⟨a, l⟩
  · exact if_pos rfl
  · have hitems := items_commas hclose fuel rest (List.cons_ne_nil a l) hfuel hitem
    obtain ⟨c, cs, htext, hc⟩ := hhead a List.mem_cons_self
    have hcons : ∃ tail, commas ((a :: l).map text) ++ close :: rest = c :: tail := by
      rcases l with - | ⟨b, l⟩ <;> simp [commas, htext]
    obtain ⟨tail, htail⟩ := hcons
    rw [htail] at hitems ⊢
    rw [sequence, if_neg hc, hitems]

/-- A printed element is no longer than the list it stands in, which bounds the fuel of its reader.
-/
private theorem length_le_commas {t : List Char} : ∀ {ts : List (List Char)}, t ∈ ts →
    t.length ≤ (commas ts).length := by
  intro ts
  induction ts with
  | nil => exact fun h => absurd h List.not_mem_nil
  | cons u ts ih =>
    intro ht
    rcases ts with - | ⟨v, ts⟩
    · rw [List.mem_singleton.mp ht]
      exact le_refl _
    · rw [commas, List.length_append, List.length_cons]
      rcases List.mem_cons.mp ht with rfl | ht
      · omega
      · have hlen := ih ht
        omega

/-- A list of texts that are not empty has no more elements than characters. -/
private theorem count_le_commas : ∀ {ts : List (List Char)}, (∀ t ∈ ts, t ≠ []) →
    ts.length ≤ (commas ts).length := by
  intro ts
  induction ts with
  | nil => exact fun _ => le_refl _
  | cons t ts ih =>
    intro hne
    have ht := List.length_pos_iff.mpr (hne t List.mem_cons_self)
    rcases ts with - | ⟨u, ts⟩
    · exact ht
    · have hlen := ih fun x hx => hne x (List.mem_cons_of_mem t hx)
      simp only [commas, List.length_append, List.length_cons] at hlen ⊢
      omega

end Items

/-! ### Quoted texts -/

/-- The escapes of one letter. -/
def shortEscapes : List (Char × Char) :=
  [('"', '"'), ('\\', '\\'), ('\x08', 'b'), ('\t', 't'), ('\n', 'n'), ('\x0c', 'f'), ('\r', 'r')]

/-- A character inside a quoted text. -/
def escape (c : Char) : List Char :=
  match shortEscapes.lookup c with
  | some e => ['\\', e]
  | none =>
    if c.toNat < 32 then
      ['\\', 'u', '0', '0', Nat.digitChar (c.toNat / 16), Nat.digitChar (c.toNat % 16)]
    else [c]

/-- A quoted text. -/
def quoted (s : String) : List Char := '"' :: (s.toList.flatMap escape ++ ['"'])

/-- The value of a hexadecimal digit. -/
def hexValue (c : Char) : ℕ :=
  if c.isDigit then c.toNat - 48 else if c.isUpper then c.toNat - 55 else c.toNat - 87

/-- The character of an escape of one letter. -/
def unescape (e : Char) : Option Char := (shortEscapes.map Prod.swap).lookup e

/-- The characters up to the closing quote, and what follows it. -/
def unquoted : List Char → Option (List Char × List Char)
  | [] => none
  | '"' :: rest => some ([], rest)
  | '\\' :: 'u' :: a :: b :: c :: d :: rest =>
    (unquoted rest).map fun r =>
      (Char.ofNat (((hexValue a * 16 + hexValue b) * 16 + hexValue c) * 16 + hexValue d) :: r.1,
        r.2)
  | '\\' :: e :: rest =>
    (unescape e).bind fun c => (unquoted rest).map fun r => (c :: r.1, r.2)
  | c :: rest => (unquoted rest).map fun r => (c :: r.1, r.2)

/-- The value of a hexadecimal digit is read back from it. -/
private theorem hexValue_digitChar : ∀ n < 16, hexValue (Nat.digitChar n) = n := by decide

/-- An escaped character is read as the character. -/
private theorem unquoted_escape (c : Char) (rest : List Char) :
    unquoted (escape c ++ rest) = (unquoted rest).map fun r => (c :: r.1, r.2) := by
  rw [escape]
  cases hshort : shortEscapes.lookup c with
  | some e =>
    have hmem : (c, e) ∈ shortEscapes := by
      obtain ⟨l₁, l₂, heq, -⟩ := List.lookup_eq_some_iff.mp hshort
      simp [heq]
    simp only [shortEscapes, List.mem_cons, Prod.mk.injEq, List.not_mem_nil, or_false] at hmem
    rcases hmem with ⟨rfl, rfl⟩ | ⟨rfl, rfl⟩ | ⟨rfl, rfl⟩ | ⟨rfl, rfl⟩ | ⟨rfl, rfl⟩ |
      ⟨rfl, rfl⟩ | ⟨rfl, rfl⟩ <;> rfl
  | none =>
    dsimp only
    split_ifs with hcontrol
    · have hvalue : ((hexValue '0' * 16 + hexValue '0') * 16 +
          hexValue (Nat.digitChar (c.toNat / 16))) * 16 +
            hexValue (Nat.digitChar (c.toNat % 16)) = c.toNat := by
        rw [hexValue_digitChar _ (by omega), hexValue_digitChar _ (by omega),
          show hexValue '0' = 0 from rfl]
        omega
      simp only [List.cons_append, List.nil_append]
      rw [unquoted, hvalue, Char.ofNat_toNat]
    · have hquote : c ≠ '"' := by
        rintro rfl
        cases hshort
      have hbackslash : c ≠ '\\' := by
        rintro rfl
        cases hshort
      simp only [List.cons_append, List.nil_append]
      exact unquoted.eq_5 c rest hquote (fun _ _ _ _ _ h _ => hbackslash h)
        fun _ _ h _ => hbackslash h

/-- Escaped characters are read back up to the closing quote. -/
private theorem unquoted_flatMap (cs rest : List Char) :
    unquoted (cs.flatMap escape ++ '"' :: rest) = some (cs, rest) := by
  induction cs with
  | nil => rfl
  | cons c cs ih =>
    rw [List.flatMap_cons, List.append_assoc, unquoted_escape, ih]
    rfl

/-- A quoted text at the beginning. -/
def readString : List Char → Option (String × List Char)
  | '"' :: cs => (unquoted cs).map fun r => (String.ofList r.1, r.2)
  | _ => none

/-- **A quoted text is read again.** -/
theorem readString_quoted (s : String) (rest : List Char) :
    readString (quoted s ++ rest) = some (s, rest) := by
  rw [quoted, List.cons_append, readString, List.append_assoc, List.singleton_append,
    unquoted_flatMap, Option.map_some, String.ofList_toList]

/-! ### Numbers -/

/-- The decimal text of a number. -/
def digits : ℤ → List Char
  | .ofNat n => Nat.toDigits 10 n
  | .negSucc n => '-' :: Nat.toDigits 10 (n + 1)

/-- The digits at the beginning. -/
def readDigits (cs : List Char) : Option (ℕ × List Char) :=
  match cs.takeWhile Char.isDigit with
  | [] => none
  | ds => some (Nat.ofDigitChars 10 ds 0, cs.dropWhile Char.isDigit)

/-- The number at the beginning. -/
def readNumber : List Char → Option (ℤ × List Char)
  | '-' :: cs => (readDigits cs).map fun r => (-r.1, r.2)
  | cs => (readDigits cs).map fun r => (r.1, r.2)

/-- What follows does not go on with digits. -/
def NoDigit (rest : List Char) : Prop := ∀ c ∈ rest.head?, c.isDigit = false

/-- A decimal number is read back if no digit follows it. -/
private theorem readDigits_toDigits (n : ℕ) {rest : List Char} (hrest : NoDigit rest) :
    readDigits (Nat.toDigits 10 n ++ rest) = some (n, rest) := by
  have hall : ∀ c ∈ Nat.toDigits 10 n, c.isDigit = true := fun c hc =>
    Nat.isDigit_of_mem_toDigits (by decide) (by decide) hc
  have hnone : rest.takeWhile Char.isDigit = [] ∧ rest.dropWhile Char.isDigit = rest := by
    rcases rest with - | ⟨c, rest⟩
    · exact ⟨rfl, rfl⟩
    · have hc : ¬ c.isDigit = true := by simp [hrest c rfl]
      exact ⟨List.takeWhile_cons_of_neg hc, List.dropWhile_cons_of_neg hc⟩
  rw [readDigits, List.takeWhile_append_of_pos hall, List.dropWhile_append_of_pos hall, hnone.1,
    hnone.2, List.append_nil]
  cases hdigits : Nat.toDigits 10 n with
  | nil => exact absurd hdigits Nat.toDigits_ne_nil
  | cons d ds =>
    dsimp only
    rw [← hdigits, Nat.ofDigitChars_ten_toDigits]

/-- The head of a decimal text. -/
private theorem digits_eq_cons (n : ℤ) :
    ∃ c cs, digits n = c :: cs ∧ (c = '-' ∨ c.isDigit = true) := by
  cases n with
  | ofNat n =>
    cases hdigits : Nat.toDigits 10 n with
    | nil => exact absurd hdigits Nat.toDigits_ne_nil
    | cons d ds =>
      refine ⟨d, ds, hdigits, .inr ?_⟩
      exact Nat.isDigit_of_mem_toDigits (by decide) (by decide) (hdigits ▸ List.mem_cons_self)
  | negSucc n => exact ⟨'-', _, rfl, .inl rfl⟩

/-- **A number is read again.** -/
theorem readNumber_digits (n : ℤ) {rest : List Char} (hrest : NoDigit rest) :
    readNumber (digits n ++ rest) = some (n, rest) := by
  cases n with
  | ofNat n =>
    have hminus : ∀ cs, Nat.toDigits 10 n ++ rest ≠ '-' :: cs := by
      intro cs h
      cases hdigits : Nat.toDigits 10 n with
      | nil => exact absurd hdigits Nat.toDigits_ne_nil
      | cons d ds =>
        have hd : d.isDigit = true :=
          Nat.isDigit_of_mem_toDigits (by decide) (by decide) (hdigits ▸ List.mem_cons_self)
        rw [hdigits, List.cons_append] at h
        obtain ⟨rfl, -⟩ := List.cons.inj h
        revert hd
        decide
    rw [digits, readNumber.eq_2 _ hminus, readDigits_toDigits n hrest]
    rfl
  | negSucc n =>
    rw [digits, List.cons_append, readNumber, readDigits_toDigits (n + 1) hrest]
    rfl

/-! ### Documents -/

mutual

/-- The text of a document, with the fields as they stand. A number that is not whole is printed
without its fraction. -/
def printChars : Json String → List Char
  | .null => ['n', 'u', 'l', 'l']
  | .bool true => ['t', 'r', 'u', 'e']
  | .bool false => ['f', 'a', 'l', 's', 'e']
  | .int n => digits n
  | .real q => digits ⌊q⌋
  | .str s => quoted s
  | .arr l => '[' :: (commas (printElements l) ++ [']'])
  | .obj fields => '\x7b' :: (commas (printFields fields) ++ ['\x7d'])

/-- The texts of the elements. -/
def printElements : List (Json String) → List (List Char)
  | [] => []
  | j :: l => printChars j :: printElements l

/-- The texts of the fields. -/
def printFields : List (String × Json String) → List (List Char)
  | [] => []
  | (k, v) :: fields => (quoted k ++ ':' :: printChars v) :: printFields fields

end

/-- The text of a field. -/
def printField (kv : String × Json String) : List Char := quoted kv.1 ++ ':' :: printChars kv.2

/-- The elements of an array are printed one by one. -/
private theorem printElements_eq_map (l : List (Json String)) :
    printElements l = l.map printChars := by
  induction l with
  | nil => rfl
  | cons j l ih => rw [printElements, ih, List.map_cons]

/-- So are the fields of an object. -/
private theorem printFields_eq_map (fields : List (String × Json String)) :
    printFields fields = fields.map printField := by
  induction fields with
  | nil => rfl
  | cons kv fields ih => rw [printFields, ih, List.map_cons, printField]

/-- A field at the beginning, whose value is read by `value`. -/
def readField (value : List Char → Option (Json String × List Char)) (cs : List Char) :
    Option ((String × Json String) × List Char) :=
  (readString cs).bind fun k =>
    match k.2 with
    | ':' :: rest => (value rest).map fun v => ((k.1, v.1), v.2)
    | _ => none

/-- The document at the beginning of a text, up to a depth. -/
def readValue : ℕ → List Char → Option (Json String × List Char)
  | 0, _ => none
  | _ + 1, 'n' :: 'u' :: 'l' :: 'l' :: rest => some (.null, rest)
  | _ + 1, 't' :: 'r' :: 'u' :: 'e' :: rest => some (.bool true, rest)
  | _ + 1, 'f' :: 'a' :: 'l' :: 's' :: 'e' :: rest => some (.bool false, rest)
  | _ + 1, '"' :: cs => (readString ('"' :: cs)).map fun r => (.str r.1, r.2)
  | fuel + 1, '[' :: cs =>
    (sequence (readValue fuel) ']' cs.length cs).map fun r => (.arr r.1, r.2)
  | fuel + 1, '\x7b' :: cs =>
    (sequence (readField (readValue fuel)) '\x7d' cs.length cs).map fun r => (.obj r.1, r.2)
  | _ + 1, cs => (readNumber cs).map fun r => (.int r.1, r.2)

/-- The beginning of a document is none of the marks between documents. -/
private theorem printChars_eq_cons (j : Json String) :
    ∃ c cs, printChars j = c :: cs ∧ c ≠ ']' ∧ c ≠ '\x7d' := by
  have hdigits : ∀ n : ℤ, ∃ c cs, digits n = c :: cs ∧ c ≠ ']' ∧ c ≠ '\x7d' := by
    intro n
    obtain ⟨c, cs, heq, hc⟩ := digits_eq_cons n
    refine ⟨c, cs, heq, ?_, ?_⟩ <;> rintro rfl <;> revert hc <;> decide
  cases j with
  | int n => exact hdigits n
  | real q => exact hdigits ⌊q⌋
  | bool b => cases b <;> exact ⟨_, _, rfl, by decide, by decide⟩
  | _ => exact ⟨_, _, rfl, by decide, by decide⟩

/-- What ends an element in a list is no digit. -/
private theorem noDigit_of_ends {close : Char} (hclose : close.isDigit = false) {rest : List Char}
    (h : Ends close rest) : NoDigit rest := by
  obtain ⟨c, rest', rfl, rfl | rfl⟩ := h
  · intro d hd
    rwa [← Option.some.inj hd]
  · intro d hd
    rw [← Option.some.inj hd]
    decide

/-- A number is read as a document. -/
private theorem readValue_digits (fuel : ℕ) (n : ℤ) {rest : List Char} (hrest : NoDigit rest) :
    readValue (fuel + 1) (digits n ++ rest) = some (.int n, rest) := by
  obtain ⟨c, cs, heq, hc⟩ := digits_eq_cons n
  have hread := readNumber_digits n hrest
  rw [heq, List.cons_append] at hread ⊢
  rw [readValue]
  · rw [hread]
    rfl
  all_goals
    intro _ h
    obtain ⟨rfl, -⟩ := List.cons.inj h
    revert hc
    decide

/-- Documents without fractions. These are read as they were printed, however large their numbers
are and though a key may stand in them twice. -/
inductive Whole : Json String → Prop
  | null : Whole .null
  | bool (b : Bool) : Whole (.bool b)
  | int (n : ℤ) : Whole (.int n)
  | str (s : String) : Whole (.str s)
  | arr {l : List (Json String)} (elements : ∀ j ∈ l, Whole j) : Whole (.arr l)
  | obj {fields : List (String × Json String)} (values : ∀ kv ∈ fields, Whole kv.2) :
    Whole (.obj fields)

/-- **A document is read again**, whatever stands behind it. -/
theorem readValue_printChars {j : Json String} (hj : Whole j) :
    ∀ (fuel : ℕ) (rest : List Char), (printChars j).length ≤ fuel → NoDigit rest →
      readValue (fuel + 1) (printChars j ++ rest) = some (j, rest) := by
  induction hj with
  | null => exact fun _ _ _ _ => rfl
  | bool b => cases b <;> exact fun _ _ _ _ => rfl
  | int => exact fun _ _ _ hrest => readValue_digits _ _ hrest
  | str s =>
    intro fuel rest _ _
    have hread := readString_quoted s rest
    rw [quoted, List.cons_append] at hread
    rw [printChars, quoted, List.cons_append, readValue, hread]
    rfl
  | @arr l _ ih =>
    intro fuel rest hfuel _
    rw [printChars, printElements_eq_map, List.length_cons, List.length_append] at hfuel
    rw [printChars, printElements_eq_map, List.cons_append, List.append_assoc, readValue]
    obtain ⟨fuel, rfl⟩ := Nat.exists_eq_add_of_le' (Nat.lt_of_lt_of_le (Nat.succ_pos _) hfuel)
    have hne : ∀ t ∈ l.map printChars, t ≠ [] := by
      intro t ht
      obtain ⟨j, -, rfl⟩ := List.mem_map.mp ht
      obtain ⟨c, cs, heq, -⟩ := printChars_eq_cons j
      simp [heq]
    have hcount := count_le_commas hne
    rw [List.length_map] at hcount
    rw [List.singleton_append, sequence_commas (by decide)]
    · rfl
    · rw [List.length_append]
      omega
    · intro j _
      obtain ⟨c, cs, heq, hc, -⟩ := printChars_eq_cons j
      exact ⟨c, cs, heq, hc⟩
    · intro j hj rest' hrest'
      have hlen := length_le_commas (List.mem_map_of_mem (f := printChars) hj)
      exact ih j hj _ _ (by omega) (noDigit_of_ends (by decide) hrest')
  | @obj fields _ ih =>
    intro fuel rest hfuel _
    rw [printChars, printFields_eq_map, List.length_cons, List.length_append] at hfuel
    rw [printChars, printFields_eq_map, List.cons_append, List.append_assoc, readValue]
    obtain ⟨fuel, rfl⟩ := Nat.exists_eq_add_of_le' (Nat.lt_of_lt_of_le (Nat.succ_pos _) hfuel)
    have hne : ∀ t ∈ fields.map printField, t ≠ [] := by
      intro t ht
      obtain ⟨kv, -, rfl⟩ := List.mem_map.mp ht
      simp [printField]
    have hcount := count_le_commas hne
    rw [List.length_map] at hcount
    rw [List.singleton_append, sequence_commas (by decide)]
    · rfl
    · rw [List.length_append]
      omega
    · intro kv _
      exact ⟨'"', _, rfl, by decide⟩
    · intro kv hkv rest' hrest'
      have hlen := length_le_commas (List.mem_map_of_mem (f := printField) hkv)
      rw [printField, List.length_append, List.length_cons] at hlen
      have hvalue := ih kv hkv fuel _ (by omega) (noDigit_of_ends (by decide) hrest')
      rw [printField, List.append_assoc, List.cons_append, readField, readString_quoted,
        Option.bind_some]
      exact congrArg (Option.map fun v => ((kv.1, v.1), v.2)) hvalue

/-- The document that a whole text is. -/
def readText (cs : List Char) : Option (Json String) :=
  (readValue (cs.length + 1) cs).bind fun r => if r.2 = [] then some r.1 else none

/-- A document without fractions is read back from its text, which its length gives fuel enough for.
-/
theorem readText_printChars {j : Json String} (hj : Whole j) :
    readText (printChars j) = some j := by
  have hread :=
    readValue_printChars hj (printChars j).length [] (le_refl _) (fun c hc => by cases hc)
  rw [List.append_nil] at hread
  rw [readText, hread]
  rfl

/-! ### Keys in order -/

mutual

/-- The document with the keys of its objects in order. -/
def sortKeys : Json String → Json String
  | .arr l => .arr (sortElements l)
  | .obj fields => .obj ((sortFields fields).mergeSort fun a b => a.1 ≤ b.1)
  | j => j

def sortElements : List (Json String) → List (Json String)
  | [] => []
  | j :: l => sortKeys j :: sortElements l

def sortFields : List (String × Json String) → List (String × Json String)
  | [] => []
  | (k, v) :: fields => (k, sortKeys v) :: sortFields fields

end

/-- The bytes of a text, in UTF-8. -/
def encode (cs : List Char) : List UInt8 := cs.flatMap String.utf8EncodeChar

/-- The text of its bytes. -/
def decode (bytes : List UInt8) : Option (List Char) :=
  bytes.toByteArray.utf8Decode?.map Array.toList

/-- A text in UTF-8 is read back from its bytes. -/
theorem decode_encode (cs : List Char) : decode (encode cs) = some cs := by
  have hbytes : (encode cs).toByteArray = cs.utf8Encode := rfl
  rw [decode, hbytes, List.utf8Decode?_utf8Encode, Option.map_some]

end TboxSec.JsonPrint
