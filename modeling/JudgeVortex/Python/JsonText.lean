import JudgeVortex.Python.Value
import Mathlib.Data.List.Sort
import Mathlib.Data.String.Basic

/-!
# The text of a JSON value

`json.dumps` with `sort_keys=True` and `separators=(",", ":")`: an ASCII text.  Among
values that are built from strings only, different values have different texts.
-/

namespace JudgeVortex.Python

/-! ## Strings -/

def hexDigit (k : Nat) : Char := ("0123456789abcdef".toList)[k]?.getD '0'

def unicodeEscape (n : Nat) : List Char :=
  ['\\', 'u', hexDigit (n / 4096), hexDigit (n / 256 % 16), hexDigit (n / 16 % 16),
    hexDigit (n % 16)]

def shortEscapes : List (Char × Char) :=
  [('"', '"'), ('\\', '\\'), ('\n', 'n'), ('\r', 'r'), ('\t', 't'), ('\x08', 'b'), ('\x0c', 'f')]

def escapeChar (c : Char) : List Char :=
  match shortEscapes.lookup c with
  | some short => ['\\', short]
  | none =>
      if 0x20 ≤ c.toNat ∧ c.toNat ≤ 0x7E then [c]
      else if c.toNat < 0x10000 then unicodeEscape c.toNat
      else
        unicodeEscape (0xD800 + (c.toNat - 0x10000) / 0x400) ++
          unicodeEscape (0xDC00 + (c.toNat - 0x10000) % 0x400)

def escapeText (text : List Char) : List Char := text.flatMap escapeChar

def quoteText (s : String) : List Char := '"' :: escapeText s.toList ++ ['"']

example : String.ofList (quoteText "é\n𝄞") = "\"\\u00e9\\n\\ud834\\udd1e\"" := by decide

/-! ## Reading one symbol back -/

def hexValue (c : Char) : Nat := "0123456789abcdef".toList.idxOf c

def hexNat (a b c d : Char) : Nat :=
  ((hexValue a * 16 + hexValue b) * 16 + hexValue c) * 16 + hexValue d

def readSymbol : List Char → Option (Char × List Char)
  | '\\' :: 'u' :: a :: b :: c :: d :: rest =>
      let n := hexNat a b c d
      if 0xD800 ≤ n ∧ n < 0xDC00 then
        match rest with
        | '\\' :: 'u' :: a :: b :: c :: d :: rest =>
            some (.ofNat (0x10000 + (n - 0xD800) * 0x400 + (hexNat a b c d - 0xDC00)), rest)
        | _ => none
      else some (.ofNat n, rest)
  | '\\' :: short :: rest =>
      (shortEscapes.find? fun entry => entry.2 = short).map fun entry => (entry.1, rest)
  | c :: rest => some (c, rest)
  | [] => none

private theorem hexValue_hexDigit {k : Nat} (h : k < 16) : hexValue (hexDigit k) = k := by
  have hall : ∀ k < 16, hexValue (hexDigit k) = k := by decide
  exact hall k h

private theorem hexNat_hexDigits {n : Nat} (h : n < 0x10000) :
    hexNat (hexDigit (n / 4096)) (hexDigit (n / 256 % 16)) (hexDigit (n / 16 % 16))
      (hexDigit (n % 16)) = n := by
  rw [hexNat, hexValue_hexDigit (by omega), hexValue_hexDigit (by omega),
    hexValue_hexDigit (by omega), hexValue_hexDigit (by omega)]
  omega

private theorem readSymbol_unicodeEscape {n : Nat} (h : n < 0x10000)
    (hplain : ¬ (0xD800 ≤ n ∧ n < 0xDC00)) (rest : List Char) :
    readSymbol (unicodeEscape n ++ rest) = some (.ofNat n, rest) := by
  simp only [unicodeEscape, List.cons_append, List.nil_append, readSymbol, hexNat_hexDigits h]
  rw [if_neg hplain]

private theorem readSymbol_surrogates {high low : Nat} (hhigh : high < 0x400) (hlow : low < 0x400)
    (rest : List Char) :
    readSymbol (unicodeEscape (0xD800 + high) ++ unicodeEscape (0xDC00 + low) ++ rest) =
      some (.ofNat (0x10000 + high * 0x400 + low), rest) := by
  simp only [unicodeEscape, List.cons_append, List.nil_append, readSymbol]
  rw [hexNat_hexDigits (by omega), hexNat_hexDigits (by omega), if_pos (by omega)]
  simp

private theorem toNat_valid (c : Char) :
    c.toNat < 0xD800 ∨ 0xDFFF < c.toNat ∧ c.toNat < 0x110000 := by
  have := c.valid
  simpa [UInt32.isValidChar, Nat.isValidChar] using this

private theorem readSymbol_short {short : Char} (h : short ≠ 'u') (rest : List Char) :
    readSymbol ('\\' :: short :: rest) =
      (shortEscapes.find? fun entry => entry.2 = short).map fun entry => (entry.1, rest) := by
  rw [readSymbol]
  exact fun _ _ _ _ _ hu _ => h hu

private theorem readSymbol_plain {c : Char} (h : c ≠ '\\') (rest : List Char) :
    readSymbol (c :: rest) = some (c, rest) := by
  rw [readSymbol]
  · exact fun _ _ _ _ _ hslash _ => h hslash
  · exact fun _ _ hslash _ => h hslash

theorem readSymbol_escapeChar (c : Char) (rest : List Char) :
    readSymbol (escapeChar c ++ rest) = some (c, rest) := by
  unfold escapeChar
  split
  next short hshort =>
    have hshorts : ∀ entry ∈ shortEscapes, entry.2 ≠ 'u' ∧
        (shortEscapes.find? fun other => other.2 = entry.2) = some entry := by decide
    obtain ⟨before, after, hsplit, -⟩ := List.lookup_eq_some_iff.mp hshort
    obtain ⟨hu, hfind⟩ := hshorts (c, short) (by simp [hsplit])
    rw [List.cons_append, List.cons_append, readSymbol_short hu, hfind]
    rfl
  next hnone =>
    have hslash : c ≠ '\\' := by
      rintro rfl
      exact absurd hnone (by decide)
    have hvalid := toNat_valid c
    split_ifs with hprintable hsmall
    · exact readSymbol_plain hslash rest
    · rw [readSymbol_unicodeEscape hsmall (by omega), Char.ofNat_toNat]
    · rw [readSymbol_surrogates (by omega) (by omega)]
      have hsum : 0x10000 + (c.toNat - 0x10000) / 0x400 * 0x400 +
          (c.toNat - 0x10000) % 0x400 = c.toNat := by omega
      rw [hsum, Char.ofNat_toNat]

private theorem escapeChar_append_inj {c d : Char} {x y : List Char}
    (h : escapeChar c ++ x = escapeChar d ++ y) : c = d ∧ x = y := by
  have hread := congrArg readSymbol h
  rw [readSymbol_escapeChar, readSymbol_escapeChar, Option.some.injEq, Prod.mk.injEq] at hread
  exact hread

private theorem quote_ne_escapeChar (c : Char) (x y : List Char) :
    '"' :: x ≠ escapeChar c ++ y := by
  intro h
  have hread := congrArg readSymbol h
  rw [readSymbol_escapeChar, readSymbol_plain (by decide), Option.some.injEq,
    Prod.mk.injEq] at hread
  obtain ⟨rfl, -⟩ := hread
  have hescape : escapeChar '"' = ['\\', '"'] := by decide
  rw [hescape] at h
  simp at h

private theorem escapeText_append_inj {s t : List Char} {x y : List Char}
    (h : escapeText s ++ '"' :: x = escapeText t ++ '"' :: y) : s = t ∧ x = y := by
  induction s generalizing t with
  | nil =>
      cases t with
      | nil => exact ⟨rfl, by simpa [escapeText] using h⟩
      | cons d t =>
          rw [escapeText, escapeText, List.flatMap_cons, List.append_assoc] at h
          exact absurd h (quote_ne_escapeChar d _ _)
  | cons c s ih =>
      cases t with
      | nil =>
          rw [escapeText, escapeText, List.flatMap_cons, List.append_assoc] at h
          exact absurd h.symm (quote_ne_escapeChar c _ _)
      | cons d t =>
          rw [escapeText, escapeText, List.flatMap_cons, List.flatMap_cons, List.append_assoc,
            List.append_assoc] at h
          obtain ⟨rfl, hrest⟩ := escapeChar_append_inj h
          obtain ⟨rfl, hxy⟩ := ih hrest
          exact ⟨rfl, hxy⟩

theorem quoteText_append_inj {s t : String} {x y : List Char}
    (h : quoteText s ++ x = quoteText t ++ y) : s = t ∧ x = y := by
  rw [quoteText, quoteText, List.cons_append, List.cons_append, List.append_assoc,
    List.append_assoc] at h
  obtain ⟨hst, hxy⟩ := escapeText_append_inj (List.cons.inj h).2
  exact ⟨String.toList_injective hst, hxy⟩

/-! ## Values -/

def PyFloat.jsonText : PyFloat → String
  | .finite x => x.text
  | .infinite negative => if negative then "-Infinity" else "Infinity"
  | .nan => "NaN"

mutual

def Json.dumps : Json → List Char
  | .null => "null".toList
  | .bool b => if b then "true".toList else "false".toList
  | .int n => (toString n).toList
  | .float x => x.jsonText.toList
  | .str s => quoteText s
  | .arr items => '[' :: Json.dumpsItems items ++ [']']
  | .obj fields => '\x7b' :: Json.dumpsFields fields ++ ['\x7d']

def Json.dumpsItems : List Json → List Char
  | [] => []
  | [item] => item.dumps
  | item :: next :: rest => item.dumps ++ ',' :: Json.dumpsItems (next :: rest)

def Json.dumpsFields : List (String × Json) → List Char
  | [] => []
  | [(key, value)] => quoteText key ++ ':' :: value.dumps
  | (key, value) :: next :: rest =>
      quoteText key ++ ':' :: (value.dumps ++ ',' :: Json.dumpsFields (next :: rest))

end

mutual

def Json.sortKeys : Json → Json
  | .arr items => .arr (Json.sortKeysItems items)
  | .obj fields =>
      .obj ((Json.sortKeysFields fields).insertionSort fun a b => a.1 ≤ b.1)
  | .null => .null
  | .bool b => .bool b
  | .int n => .int n
  | .float x => .float x
  | .str s => .str s

def Json.sortKeysItems : List Json → List Json
  | [] => []
  | item :: rest => item.sortKeys :: Json.sortKeysItems rest

def Json.sortKeysFields : List (String × Json) → List (String × Json)
  | [] => []
  | (key, value) :: rest => (key, value.sortKeys) :: Json.sortKeysFields rest

end

@[simp] theorem sortKeysItems_eq_map (items : List Json) :
    Json.sortKeysItems items = items.map Json.sortKeys := by
  induction items with
  | nil => rfl
  | cons item rest ih => rw [Json.sortKeysItems, ih, List.map_cons]

/-- `json.dumps(value, sort_keys=True, separators=(",", ":"))`. -/
def jsonDumps (value : Json) : String := .ofList value.sortKeys.dumps

mutual

def Json.Textual : Json → Prop
  | .str _ => True
  | .arr items => Json.TextualItems items
  | .obj fields => Json.TextualFields fields
  | .null | .bool _ | .int _ | .float _ => False

def Json.TextualItems : List Json → Prop
  | [] => True
  | item :: rest => item.Textual ∧ Json.TextualItems rest

def Json.TextualFields : List (String × Json) → Prop
  | [] => True
  | entry :: rest => entry.2.Textual ∧ Json.TextualFields rest

end

@[simp] theorem textualItems_iff (items : List Json) :
    Json.TextualItems items ↔ ∀ item ∈ items, item.Textual := by
  induction items with
  | nil => simp [Json.TextualItems]
  | cons item rest ih => rw [Json.TextualItems, ih, List.forall_mem_cons]

/-! ## Different values have different texts -/

def itemsTail (rest : List Json) : List Char :=
  if rest.isEmpty then [] else ',' :: Json.dumpsItems rest

def fieldsTail (rest : List (String × Json)) : List Char :=
  if rest.isEmpty then [] else ',' :: Json.dumpsFields rest

private theorem dumpsItems_cons (item : Json) (rest : List Json) :
    Json.dumpsItems (item :: rest) = item.dumps ++ itemsTail rest := by
  cases rest <;> simp [Json.dumpsItems, itemsTail]

private theorem dumpsFields_cons (key : String) (value : Json) (rest : List (String × Json)) :
    Json.dumpsFields ((key, value) :: rest) =
      quoteText key ++ ':' :: (value.dumps ++ fieldsTail rest) := by
  cases rest <;> simp [Json.dumpsFields, fieldsTail]

private theorem dumps_head {value : Json} (h : value.Textual) :
    ∃ c rest, value.dumps = c :: rest ∧ c ≠ ']' ∧ c ≠ '\x7d' := by
  cases value with
  | str s => exact ⟨'"', _, rfl, by decide, by decide⟩
  | arr items => exact ⟨'[', _, rfl, by decide, by decide⟩
  | obj fields => exact ⟨'\x7b', _, rfl, by decide, by decide⟩
  | null | bool b | int n | float x => cases h

private theorem dumpsItems_ne_close {item : Json} (h : item.Textual) (rest : List Json)
    (x y : List Char) : Json.dumpsItems (item :: rest) ++ x ≠ ']' :: y := by
  obtain ⟨c, tail, htail, hc, -⟩ := dumps_head h
  rw [dumpsItems_cons, htail]
  intro heq
  exact hc (List.cons.inj heq).1

private theorem dumpsFields_ne_close (entry : String × Json) (rest : List (String × Json))
    (x y : List Char) : Json.dumpsFields (entry :: rest) ++ x ≠ '\x7d' :: y := by
  obtain ⟨key, value⟩ := entry
  rw [dumpsFields_cons, quoteText]
  intro heq
  exact absurd (List.cons.inj heq).1 (by decide)

mutual

theorem dumps_append_inj : ∀ {a b : Json} {x y : List Char}, a.Textual → b.Textual →
    a.dumps ++ x = b.dumps ++ y → a = b ∧ x = y
  | .str s, .str t, x, y, _, _, h => by
      rw [Json.dumps, Json.dumps] at h
      obtain ⟨rfl, hxy⟩ := quoteText_append_inj h
      exact ⟨rfl, hxy⟩
  | .arr as, .arr bs, x, y, ha, hb, h => by
      simp only [Json.dumps, List.cons_append, List.append_assoc, List.nil_append,
        List.cons.injEq, true_and] at h
      obtain ⟨rfl, hxy⟩ := dumpsItems_append_inj ha hb h
      exact ⟨rfl, hxy⟩
  | .obj as, .obj bs, x, y, ha, hb, h => by
      simp only [Json.dumps, List.cons_append, List.append_assoc, List.nil_append,
        List.cons.injEq, true_and] at h
      obtain ⟨rfl, hxy⟩ := dumpsFields_append_inj ha hb h
      exact ⟨rfl, hxy⟩
  | .str _, .arr _, x, y, _, _, h | .str _, .obj _, x, y, _, _, h
  | .arr _, .str _, x, y, _, _, h | .arr _, .obj _, x, y, _, _, h
  | .obj _, .str _, x, y, _, _, h | .obj _, .arr _, x, y, _, _, h => by
      simp [Json.dumps, quoteText] at h

theorem dumpsItems_append_inj : ∀ {as bs : List Json} {x y : List Char},
    Json.TextualItems as → Json.TextualItems bs →
    Json.dumpsItems as ++ ']' :: x = Json.dumpsItems bs ++ ']' :: y → as = bs ∧ x = y
  | [], [], x, y, _, _, h => ⟨rfl, by simpa [Json.dumpsItems] using h⟩
  | [], b :: bs, x, y, _, hb, h => absurd h.symm (dumpsItems_ne_close hb.1 bs _ x)
  | a :: as, [], x, y, ha, _, h => absurd h (dumpsItems_ne_close ha.1 as _ y)
  | a :: as, b :: bs, x, y, ha, hb, h => by
      rw [dumpsItems_cons, dumpsItems_cons, List.append_assoc, List.append_assoc] at h
      obtain ⟨rfl, htail⟩ := dumps_append_inj ha.1 hb.1 h
      cases as with
      | nil =>
          cases bs with
          | nil => exact ⟨rfl, by simpa [itemsTail] using htail⟩
          | cons b bs => simp [itemsTail] at htail
      | cons a as =>
          cases bs with
          | nil => simp [itemsTail] at htail
          | cons b bs =>
              obtain ⟨hrest, hxy⟩ := dumpsItems_append_inj ha.2 hb.2 (List.cons.inj htail).2
              exact ⟨by rw [hrest], hxy⟩

theorem dumpsFields_append_inj : ∀ {as bs : List (String × Json)} {x y : List Char},
    Json.TextualFields as → Json.TextualFields bs →
    Json.dumpsFields as ++ '\x7d' :: x = Json.dumpsFields bs ++ '\x7d' :: y → as = bs ∧ x = y
  | [], [], x, y, _, _, h => ⟨rfl, by simpa [Json.dumpsFields] using h⟩
  | [], b :: bs, x, y, _, _, h => absurd h.symm (dumpsFields_ne_close b bs _ x)
  | a :: as, [], x, y, _, _, h => absurd h (dumpsFields_ne_close a as _ y)
  | (key, a) :: as, (key', b) :: bs, x, y, ha, hb, h => by
      rw [dumpsFields_cons, dumpsFields_cons, List.append_assoc, List.append_assoc] at h
      obtain ⟨rfl, hvalue⟩ := quoteText_append_inj h
      simp only [List.cons_append, List.append_assoc, List.cons.injEq, true_and] at hvalue
      obtain ⟨rfl, htail⟩ := dumps_append_inj ha.1 hb.1 hvalue
      cases as with
      | nil =>
          cases bs with
          | nil => exact ⟨rfl, by simpa [fieldsTail] using htail⟩
          | cons b bs => simp [fieldsTail] at htail
      | cons a as =>
          cases bs with
          | nil => simp [fieldsTail] at htail
          | cons b bs =>
              obtain ⟨hrest, hxy⟩ := dumpsFields_append_inj ha.2 hb.2 (List.cons.inj htail).2
              exact ⟨by rw [hrest], hxy⟩

end

theorem dumps_inj {a b : Json} (ha : a.Textual) (hb : b.Textual) : a.dumps = b.dumps ↔ a = b := by
  constructor
  · intro h
    have happend : a.dumps ++ [] = b.dumps ++ [] := by rw [h]
    exact (dumps_append_inj ha hb happend).1
  · exact congrArg Json.dumps

theorem jsonDumps_inj {a b : Json} (ha : a.sortKeys.Textual) (hb : b.sortKeys.Textual) :
    jsonDumps a = jsonDumps b ↔ a.sortKeys = b.sortKeys := by
  rw [jsonDumps, jsonDumps, ← String.toList_inj, String.toList_ofList, String.toList_ofList,
    dumps_inj ha hb]

end JudgeVortex.Python
