import Mathlib.Data.Nat.Digits.Defs
import RouteStubs.Proofs.Syntax.Quoting
import RouteStubs.Proofs.Text.Boundaries

/-!
# Symbols of interpreted literals

What stands between the quotes of an interpreted literal is a sequence of symbols: characters that
stand for themselves, and escapes for characters and for single bytes. Each symbol has a spelling
and the bytes it stands for, told here without regard to how escapes are found and resolved. A
literal is resolved symbol by symbol, wherever one symbol could be mistaken for the beginning of the
next, and only the bytes of all symbols together are decoded. A backslash that begins no escape is
kept among them as one character of its own.
-/

namespace RouteStubs.Syntax.StringLiteral

/-! ## Numbers in escapes -/

/-- A digit in the given `base`, which may be written as a capital letter. -/
structure Digit (base : Nat) where
  value : Fin base
  capital : Bool

/-- The character of the digit `d`. -/
def Digit.char {base : Nat} (d : Digit base) : Char :=
  if d.capital then (Nat.digitChar d.value).toUpper else Nat.digitChar d.value

/-- A number that is written with `count` digits in the given `base`. -/
structure Numeral (base count : Nat) where
  digits : List (Digit base)
  length_digits : digits.length = count

namespace Numeral

variable {base count : Nat}

/-- The written form of the number `n`, with the most significant digit in front. -/
def text (n : Numeral base count) : Text := n.digits.map Digit.char

/-- The number that the digits of `n` write down. -/
def value (n : Numeral base count) : Nat :=
  Nat.ofDigits base (n.digits.reverse.map fun d => d.value.val)

@[simp] lemma length_text (n : Numeral base count) : n.text.length = count := by
  rw [text, List.length_map, n.length_digits]

end Numeral

/-- A digit `d` is read by `digitIn?` whatever its case. -/
lemma digitIn?_char {base : Nat} (hbase : base ≤ 16) (d : Digit base) :
    Text.digitIn? base d.char = some d.value.val := by
  have hall : ∀ v < 16, ∀ capital : Bool, Text.digitValue?
      (if capital then (Nat.digitChar v).toUpper else Nat.digitChar v) = some v := by
    decide +kernel
  have hvalue : Text.digitValue? d.char = some d.value.val :=
    hall d.value.val (by omega) d.capital
  simp [Text.digitIn?, hvalue]

/-- The digits of a number `n` are read one after the other by `numberIn?`. -/
lemma numberIn?_text {base count : Nat} (hbase : base ≤ 16) (n : Numeral base count) :
    Text.numberIn? base n.text = some n.value := by
  have hfold (ds : List (Digit base)) (v : Nat) :
      (ds.map Digit.char).foldl
          (fun value? c => do
            let value ← value?
            let d ← Text.digitIn? base c
            pure (value * base + d))
          (some v) = some (ds.foldl (fun v d => v * base + d.value.val) v) := by
    induction ds generalizing v with
    | nil => rfl
    | cons d ds ih =>
      rw [List.map_cons, List.foldl_cons, List.foldl_cons, ← ih]
      simp [digitIn?_char hbase]
  rw [Text.numberIn?, Numeral.text, hfold, Numeral.value, Nat.ofDigits_eq_foldr, List.foldr_map,
    List.foldr_reverse]
  simp only [Nat.cast_id, Nat.add_comm, Nat.mul_comm]

/-- A number `n` is found by `digitsAt?` in front of whatever follows its digits. -/
lemma digitsAt?_text_append {base count : Nat} (hbase : base ≤ 16) (n : Numeral base count)
    (rest : Text) : digitsAt? base count (n.text ++ rest) = some n.value := by
  rw [digitsAt?_append n.length_text, numberIn?_text hbase]

/-! ## Symbols -/

/-- The letters and marks that stand for a character behind a backslash. -/
def marks : List (Char × Char) :=
  [('a', '\x07'), ('b', '\x08'), ('f', '\x0c'), ('n', '\n'), ('r', '\r'), ('t', '\t'), ('v', '\x0b'),
    ('\\', '\\'), ('"', '"'), ('\'', '\'')]

/-- A symbol of an interpreted literal. -/
inductive Symbol where
  /-- A character that stands for itself. -/
  | plain (c : Char) (h : c ≠ '\\')
  /-- A character by a letter or a mark. -/
  | mark (letter c : Char) (h : (letter, c) ∈ marks)
  /-- A byte by two hexadecimal digits. -/
  | hexByte (n : Numeral 16 2)
  /-- A byte by three octal digits. -/
  | octalByte (n : Numeral 8 3) (h : n.value ≤ 0xff)
  /-- A character by four hexadecimal digits. -/
  | short (n : Numeral 16 4) (h : n.value.isValidChar)
  /-- A character by eight hexadecimal digits. -/
  | long (n : Numeral 16 8) (h : n.value.isValidChar)

namespace Symbol

/-- How a symbol is written. -/
def spelling : Symbol → Text
  | .plain c _ => [c]
  | .mark letter _ _ => ['\\', letter]
  | .hexByte n => '\\' :: 'x' :: n.text
  | .octalByte n _ => '\\' :: n.text
  | .short n _ => '\\' :: 'u' :: n.text
  | .long n _ => '\\' :: 'U' :: n.text

/-- The bytes that a symbol stands for: those of its character, or the single one. -/
def bytes : Symbol → List UInt8
  | .plain c _ => Text.encode [c]
  | .mark _ c _ => Text.encode [c]
  | .hexByte n => [UInt8.ofNat n.value]
  | .octalByte n _ => [UInt8.ofNat n.value]
  | .short n _ => Text.encode [Char.ofNat n.value]
  | .long n _ => Text.encode [Char.ofNat n.value]

end Symbol

section

variable (rest : Text)

/-- A letter or mark in `marks` is an escape by itself. -/
lemma escape?_mark {letter c : Char} (h : (letter, c) ∈ marks) :
    escape? ([letter] ++ rest) = some ⟨.char c, 1⟩ := by
  have hall : ∀ p ∈ marks, simpleEscape? p.1 = some p.2 := by decide
  rw [List.singleton_append, escape?, hall (letter, c) h]

lemma escape?_hexByte (n : Numeral 16 2) :
    escape? ('x' :: n.text ++ rest) = some ⟨.byte (UInt8.ofNat n.value), 3⟩ := by
  simp [escape?, simpleEscape?, digitsAt?_text_append]

/-- An octal digit begins no other escape. -/
lemma escape?_octalByte (n : Numeral 8 3) (h : n.value ≤ 0xff) :
    escape? (n.text ++ rest) = some ⟨.byte (UInt8.ofNat n.value), 3⟩ := by
  have hfirst : ∀ d : Digit 8, simpleEscape? d.char = none ∧ d.char ≠ 'x' ∧
      Token.isOctalDigit d.char = true := by
    have hall : ∀ v < 8, ∀ capital : Bool,
        let c := if capital then (Nat.digitChar v).toUpper else Nat.digitChar v
        simpleEscape? c = none ∧ c ≠ 'x' ∧ Token.isOctalDigit c = true := by
      decide +kernel
    exact fun d => hall d.value.val d.value.isLt d.capital
  obtain ⟨c, t, htext, hsimple, hx, hoctal⟩ : ∃ c t, n.text = c :: t ∧ simpleEscape? c = none ∧
      c ≠ 'x' ∧ Token.isOctalDigit c = true := by
    obtain ⟨digits, hlength⟩ := n
    cases digits with
    | nil => simp at hlength
    | cons d digits => exact ⟨d.char, digits.map Digit.char, rfl, hfirst d⟩
  have hnumber := digitsAt?_text_append (by decide) n rest
  rw [htext, List.cons_append] at hnumber ⊢
  simp [escape?, hsimple, hx, hoctal, hnumber, h]

/-- A number `n` that belongs to a character is found by `scalar?` to do so. -/
lemma scalar?_of_isValidChar {n : Nat} (h : n.isValidChar) : scalar? n = some (Char.ofNat n) :=
  if_pos h

lemma escape?_short (n : Numeral 16 4) (h : n.value.isValidChar) :
    escape? ('u' :: n.text ++ rest) = some ⟨.char (Char.ofNat n.value), 5⟩ := by
  simp [escape?, simpleEscape?, Token.isOctalDigit, digitsAt?_text_append,
    scalar?_of_isValidChar h]

lemma escape?_long (n : Numeral 16 8) (h : n.value.isValidChar) :
    escape? ('U' :: n.text ++ rest) = some ⟨.char (Char.ofNat n.value), 9⟩ := by
  simp [escape?, simpleEscape?, Token.isOctalDigit, digitsAt?_text_append,
    scalar?_of_isValidChar h]

/-- A symbol `s` is resolved to its bytes, whatever follows it. -/
lemma resolveBytes_spelling_append (s : Symbol) :
    resolveBytes (s.spelling ++ rest) = s.bytes ++ resolveBytes rest := by
  cases s with
  | plain c h => rw [Symbol.spelling, List.singleton_append, resolveBytes, if_neg h, Symbol.bytes]
  | mark letter c h => exact resolveBytes_escape (escape?_mark rest h) rfl
  | hexByte n => exact resolveBytes_escape (escape?_hexByte rest n) (by simp)
  | octalByte n h => exact resolveBytes_escape (escape?_octalByte rest n h) (by simp)
  | short n h => exact resolveBytes_escape (escape?_short rest n h) (by simp)
  | long n h => exact resolveBytes_escape (escape?_long rest n h) (by simp)

end

/-! ## Backslashes by themselves -/

/-- A part of an interpreted literal: a symbol, or a backslash by itself. -/
inductive Part where
  | symbol (s : Symbol)
  | backslash

/-- How a part is written. -/
def Part.spelling : Part → Text
  | .symbol s => s.spelling
  | .backslash => ['\\']

/-- The bytes that a part stands for. -/
def Part.bytes : Part → List UInt8
  | .symbol s => s.bytes
  | .backslash => Text.encode ['\\']

/-- No backslash that stands by itself begins an escape together with what follows it. -/
def LoneBackslashes : List Part → Prop
  | [] => True
  | .symbol _ :: parts => LoneBackslashes parts
  | .backslash :: parts => escape? (parts.flatMap Part.spelling) = none ∧ LoneBackslashes parts

/-- The `symbols` of a literal alone have no backslashes by themselves. -/
lemma loneBackslashes_map_symbol (symbols : List Symbol) :
    LoneBackslashes (symbols.map .symbol) := by
  induction symbols with
  | nil => trivial
  | cons s symbols ih => exact ih

/-- A literal is resolved part by part, if its backslashes are `LoneBackslashes`. -/
lemma resolveBytes_flatMap_spelling {parts : List Part} (h : LoneBackslashes parts) :
    resolveBytes (parts.flatMap Part.spelling) = parts.flatMap Part.bytes := by
  induction parts with
  | nil => simp [resolveBytes]
  | cons part parts ih =>
    rw [List.flatMap_cons, List.flatMap_cons]
    cases part with
    | symbol s => rw [Part.spelling, resolveBytes_spelling_append, ih h, Part.bytes]
    | backslash =>
      rw [Part.spelling, List.singleton_append, resolveBytes, if_pos rfl, h.1]
      dsimp only
      rw [ih h.2, Part.bytes]

/-- Interpreted literals are resolved symbol by symbol: the value is what the bytes of all symbols
together encode. A backslash that begins no escape changes no symbol before it or behind it and
stays where it is, between what the bytes before it and the bytes behind it encode. -/
theorem resolve_symbol_by_symbol :
    (∀ symbols : List Symbol, resolve (symbols.flatMap Symbol.spelling) =
      Text.decodeLossy (symbols.flatMap Symbol.bytes)) ∧
    ∀ parts : List Part, LoneBackslashes parts →
      resolve (parts.flatMap Part.spelling) = Text.decodeLossy (parts.flatMap Part.bytes) ∧
      ∀ before after, parts = before ++ .backslash :: after →
        resolve (parts.flatMap Part.spelling) =
          Text.decodeLossy (before.flatMap Part.bytes) ++
            '\\' :: Text.decodeLossy (after.flatMap Part.bytes) := by
  have hparts {parts : List Part} (h : LoneBackslashes parts) :
      resolve (parts.flatMap Part.spelling) = Text.decodeLossy (parts.flatMap Part.bytes) := by
    rw [resolve, resolveBytes_flatMap_spelling h]
  refine ⟨fun symbols => ?_, fun parts h => ⟨hparts h, ?_⟩⟩
  · have hsymbols := hparts (loneBackslashes_map_symbol symbols)
    rwa [List.flatMap_map, List.flatMap_map] at hsymbols
  · rintro before after rfl
    rw [hparts h, List.flatMap_append, List.flatMap_cons, Part.bytes,
      Text.decodeLossy_append_encode_append]

/-- Two bytes that make up a character, a backslash by itself, and two characters. -/
def mixedParts : List Part :=
  [.symbol (.hexByte ⟨[⟨12, true⟩, ⟨3, false⟩], rfl⟩),
    .symbol (.octalByte ⟨[⟨2, false⟩, ⟨5, false⟩, ⟨1, false⟩], rfl⟩ (by decide)),
    .backslash,
    .symbol (.plain 'q' (by decide)),
    .symbol (.short ⟨[⟨0, false⟩, ⟨0, false⟩, ⟨4, false⟩, ⟨1, false⟩], rfl⟩ (by decide))]

/-- Bytes of `mixedParts` in different spellings are joined to one character, and the backslash
behind it stays. -/
theorem resolve_mixedParts :
    LoneBackslashes mixedParts ∧
      mixedParts.flatMap Part.spelling = lit "\\xC3\\251\\q\\u0041" ∧
      resolve (lit "\\xC3\\251\\q\\u0041") = lit "é\\qA" := by
  have hlone : LoneBackslashes mixedParts := ⟨by decide +kernel, trivial⟩
  have hspelling : mixedParts.flatMap Part.spelling = lit "\\xC3\\251\\q\\u0041" := by
    decide +kernel
  refine ⟨hlone, hspelling, ?_⟩
  rw [← hspelling, (resolve_symbol_by_symbol.2 mixedParts hlone).1]
  decide +kernel

end RouteStubs.Syntax.StringLiteral
