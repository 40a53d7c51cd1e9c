import RouteStubs.Proofs.Syntax.Quoting
import RouteStubs.Proofs.Text.Lines
import RouteStubs.Report.Record

/-!
# Reading records back

`Json.parse` reads any JSON text. It is the measure of what the writers of `Record` do: each of them
writes a text that `Spells` the value it was given, whatever characters the strings in the value
have. The line of a file is therefore read back to the path, the package and the handlers of the
file, and since it has no line feed but the last one, many such lines are told apart as well.
-/

namespace RouteStubs

/-- A JSON value. Numbers are kept as they are written, and members in the order in which they
are. -/
inductive Json where
  | null
  | bool (b : Bool)
  | number (t : Text)
  | string (t : Text)
  | array (items : List Json)
  | object (members : List (Text × Json))

namespace Json

/-! ## Reading JSON -/

/-- Blanks may stand around every value and every mark. -/
def isBlank (c : Char) : Bool :=
  c == ' ' || c == '\t' || c == '\n' || c == '\r'

/-- The text without blanks in front. -/
def skipBlanks (t : Text) : Text :=
  t.dropWhile isBlank

/-- The character that a single letter or mark after a backslash stands for. -/
def simpleEscape? : Char → Option Char
  | '"' => some '"'
  | '\\' => some '\\'
  | '/' => some '/'
  | 'b' => some '\x08'
  | 'f' => some '\x0c'
  | 'n' => some '\n'
  | 'r' => some '\r'
  | 't' => some '\t'
  | _ => none

/-- The character that the hexadecimal digits after `\u` stand for, and how many characters it has
from there on. The first half of a surrogate pair has to be followed by the second one. -/
def unicodeEscape? (t : Text) : Option (Char × Nat) := do
  let n ← Syntax.StringLiteral.digitsAt? 16 4 t
  if 0xd800 ≤ n ∧ n < 0xdc00 then
    let m ← Syntax.StringLiteral.digitsAt? 16 4 (t.drop 6)
    if (t.drop 4).take 2 = ['\\', 'u'] ∧ 0xdc00 ≤ m ∧ m < 0xe000 then
      let c ← Syntax.StringLiteral.scalar? (0x10000 + (n - 0xd800) * 0x400 + (m - 0xdc00))
      pure (c, 10)
    else none
  else
    let c ← Syntax.StringLiteral.scalar? n
    pure (c, 4)

/-- The character that the text after a backslash stands for, and how many characters of the text
it takes up. -/
def escape? : Text → Option (Char × Nat)
  | [] => none
  | c :: t =>
    if c = 'u' then (unicodeEscape? t).map fun e => (e.1, e.2 + 1)
    else (simpleEscape? c).map fun d => (d, 1)

/-- What a string stands for, read behind its opening quote, and the text behind its closing
quote. -/
def body : Text → Option (Text × Text)
  | [] => none
  | c :: t =>
    if c = '"' then some ([], t)
    else if c = '\\' then
      match escape? t with
      | some (d, width) => (body (t.drop width)).map fun r => (d :: r.1, r.2)
      | none => none
    else if c.toNat < 0x20 then none
    else (body t).map fun r => (c :: r.1, r.2)
termination_by t => t.length

/-- The exponent of a number, or nothing. -/
def isExponent : Text → Bool
  | [] => true
  | e :: t =>
    let digits := if t.head? == some '+' || t.head? == some '-' then t.tail else t
    (e == 'e' || e == 'E') && !digits.isEmpty && digits.all Char.isDigit

/-- The text `t` is a number. -/
def isNumber (t : Text) : Bool :=
  let t := if t.head? == some '-' then t.tail else t
  let whole := t.takeWhile Char.isDigit
  let others := t.dropWhile Char.isDigit
  !whole.isEmpty && (whole.head? != some '0' || whole.length == 1) &&
    if others.head? == some '.' then
      let fraction := others.tail.takeWhile Char.isDigit
      !fraction.isEmpty && isExponent (others.tail.dropWhile Char.isDigit)
    else isExponent others

/-- A word or a number in front of `t`, and the text behind it. -/
def plain (t : Text) : Option (Json × Text) :=
  let word := t.takeWhile fun c => c.isAlphanum || c == '+' || c == '-' || c == '.'
  let rest := t.drop word.length
  if word = lit "null" then some (.null, rest)
  else if word = lit "true" then some (.bool true, rest)
  else if word = lit "false" then some (.bool false, rest)
  else if isNumber word then some (.number word, rest)
  else none

variable {α : Type}

/-- One `item` after the other, with commas between them and the mark `close` behind the last. -/
def items (close : Char) (item : Text → Option (α × Text)) : Nat → Text → Option (List α × Text)
  | 0, _ => none
  | bound + 1, t => do
    let (a, t) ← item t
    match skipBlanks t with
    | [] => none
    | c :: t =>
      if c = close then some ([a], t)
      else if c = ',' then (items close item bound t).map fun r => (a :: r.1, r.2)
      else none

/-- What stands between two marks, read behind the opening one up to `close`. There may be no items.
-/
def sequence (close : Char) (item : Text → Option (α × Text)) (t : Text) :
    Option (List α × Text) :=
  match skipBlanks t with
  | [] => none
  | c :: rest => if c = close then some ([], rest) else items close item t.length t

/-- A member of an object. -/
def member (value : Text → Option (α × Text)) (t : Text) : Option ((Text × α) × Text) :=
  match skipBlanks t with
  | [] => none
  | c :: t =>
    if c = '"' then do
      let (key, t) ← body t
      match skipBlanks t with
      | [] => none
      | c :: t => if c = ':' then (value t).map fun r => ((key, r.1), r.2) else none
    else none

/-- A value of at most the given depth in front of the text, and the text behind it. -/
def value : Nat → Text → Option (Json × Text)
  | 0, _ => none
  | depth + 1, t =>
    match skipBlanks t with
    | [] => none
    | c :: t =>
      if c = '"' then (body t).map fun r => (.string r.1, r.2)
      else if c = '[' then (sequence ']' (value depth) t).map fun r => (.array r.1, r.2)
      else if c = '\x7b' then
        (sequence '\x7d' (member (value depth)) t).map fun r => (.object r.1, r.2)
      else plain (c :: t)

/-- The value that the text `t` stands for. A value is never deeper than its text is long. -/
def parse (t : Text) : Option Json :=
  match value (t.length + 1) t with
  | some (v, rest) => if (skipBlanks rest).isEmpty then some v else none
  | none => none

end Json

/-! ## Characters and strings -/

namespace Record

/-- The forms that `escapeChar` gives a character in a string: a backslash and a mark or letter for
it, a numeric escape, or the character itself. -/
lemma escapeChar_cases (c : Char) :
    (∃ d, escapeChar c = ['\\', d] ∧ d ≠ 'u' ∧ Json.simpleEscape? d = some c) ∨
      (c.toNat < 0x20 ∧ escapeChar c = '\\' :: 'u' :: Text.hexadecimal 4 c.toNat) ∨
      (escapeChar c = [c] ∧ c ≠ '"' ∧ c ≠ '\\' ∧ ¬ c.toNat < 0x20) := by
  unfold escapeChar
  split_ifs with h₁ h₂ h₃ h₄ h₅ h₆ h₇ h₈
  · exact .inl ⟨'"', by decide, by decide, by rw [h₁]; rfl⟩
  · exact .inl ⟨'\\', by decide, by decide, by rw [h₂]; rfl⟩
  · exact .inl ⟨'b', by decide, by decide, by rw [h₃]; rfl⟩
  · exact .inl ⟨'f', by decide, by decide, by rw [h₄]; rfl⟩
  · exact .inl ⟨'n', by decide, by decide, by rw [h₅]; rfl⟩
  · exact .inl ⟨'r', by decide, by decide, by rw [h₆]; rfl⟩
  · exact .inl ⟨'t', by decide, by decide, by rw [h₇]; rfl⟩
  · exact .inr (.inl ⟨h₈, rfl⟩)
  · exact .inr (.inr ⟨rfl, h₁, h₂, h₈⟩)

end Record

namespace Json

/-- A character `c` of a string is read back by `body`. -/
lemma body_escapeChar (c : Char) (rest : Text) :
    body (Record.escapeChar c ++ rest) = (body rest).map fun r => (c :: r.1, r.2) := by
  rcases Record.escapeChar_cases c with ⟨d, hc, hu, hd⟩ | ⟨hlow, hc⟩ | ⟨hc, hquote, hback, hlow⟩
  · have hescape : escape? (d :: rest) = some (c, 1) := by simp [escape?, hu, hd]
    rw [hc, List.cons_append, List.cons_append, List.nil_append, body]
    simp [hescape]
  · have hlow' : c.toNat < 0xa0 := by omega
    have hunicode : unicodeEscape? (Text.hexadecimal 4 c.toNat ++ rest) = some (c, 4) := by
      have hhalf : ¬ (0xd800 ≤ c.toNat ∧ c.toNat < 0xdc00) := by omega
      simp [unicodeEscape?, Syntax.StringLiteral.digitsAt?_control hlow', hhalf,
        Syntax.StringLiteral.scalar?_toNat]
    have hescape : escape? ('u' :: (Text.hexadecimal 4 c.toNat ++ rest)) = some (c, 5) := by
      simp [escape?, hunicode]
    have hdrop : ('u' :: (Text.hexadecimal 4 c.toNat ++ rest)).drop 5 = rest := by
      rw [List.drop_succ_cons]
      exact List.drop_left' (Syntax.StringLiteral.hexadecimal_control c.toNat hlow').1
    rw [hc, List.cons_append, List.cons_append, body]
    simp only [hescape, hdrop]
    rfl
  · rw [hc, List.cons_append, List.nil_append, body, if_neg hquote, if_neg hback, if_neg hlow]

/-- A string `t` is read back by `body` behind its opening quote. -/
lemma body_flatMap_escapeChar (t rest : Text) :
    body (t.flatMap Record.escapeChar ++ '"' :: rest) = some (t, rest) := by
  induction t with
  | nil => simp [body]
  | cons c t ih => rw [List.flatMap_cons, List.append_assoc, body_escapeChar, ih, Option.map_some]

/-! ## Values -/

/-- The text `w` is read as the value `v`, whatever follows it. -/
structure Spells (w : Text) (v : Json) : Prop where
  opens : ∃ c u, w = c :: u ∧ (c = '"' ∨ c = '[' ∨ c = '\x7b')
  value : ∀ depth, w.length ≤ depth → ∀ rest, value depth (w ++ rest) = some (v, rest)

/-- A mark that is not a blank is not passed over. -/
lemma skipBlanks_cons {c : Char} (h : isBlank c = false) (t : Text) :
    skipBlanks (c :: t) = c :: t := by
  simp [skipBlanks, h]

lemma value_quote (depth : Nat) (t : Text) :
    value (depth + 1) ('"' :: t) = (body t).map fun r => (.string r.1, r.2) := by
  simp [value, skipBlanks_cons, isBlank]

lemma value_bracket (depth : Nat) (t : Text) :
    value (depth + 1) ('[' :: t) =
      (sequence ']' (value depth) t).map fun r => (.array r.1, r.2) := by
  simp [value, skipBlanks_cons, isBlank]

lemma value_brace (depth : Nat) (t : Text) :
    value (depth + 1) ('\x7b' :: t) =
      (sequence '\x7d' (member (value depth)) t).map fun r => (.object r.1, r.2) := by
  simp [value, skipBlanks_cons, isBlank]

/-- A text `w` that spells a value is read as a whole by `parse`. -/
lemma Spells.parse {w : Text} {v : Json} (h : Spells w v) : Json.parse w = some v := by
  have hvalue := h.value (w.length + 1) (Nat.le_succ _) []
  rw [List.append_nil] at hvalue
  simp [Json.parse, hvalue, skipBlanks]

/-- A string that `Record.string` writes is read back. -/
lemma spells_string (t : Text) : Spells (Record.string t) (.string t) := by
  constructor
  · exact ⟨'"', _, rfl, .inl rfl⟩
  · intro depth hdepth rest
    cases depth with
    | zero => simp [Record.string] at hdepth
    | succ depth =>
      rw [Record.string, List.cons_append, List.cons_append, List.append_assoc,
        List.singleton_append, value_quote, body_flatMap_escapeChar]
      rfl

/-- The items `xs` with commas between them are read back, if each of them is. -/
lemma items_intercalate {α : Type} {close : Char} (hclose : isBlank close = false)
    (hcomma : close ≠ ',') {item : Text → Option (α × Text)} {xs : List (Text × α)} (hne : xs ≠ [])
    (hitem : ∀ x ∈ xs, ∀ rest, item (x.1 ++ rest) = some (x.2, rest)) {bound : Nat}
    (hbound : xs.length ≤ bound) (rest : Text) :
    items close item bound (List.intercalate [','] (xs.map Prod.fst) ++ close :: rest) =
      some (xs.map Prod.snd, rest) := by
  induction xs generalizing bound with
  | nil => exact absurd rfl hne
  | cons x xs ih =>
    cases bound with
    | zero => simp at hbound
    | succ bound =>
      have hx := hitem x List.mem_cons_self
      cases xs with
      | nil =>
        simp [items, hx, skipBlanks_cons hclose]
      | cons y ys =>
        have hothers := ih (List.cons_ne_nil y ys)
          (fun z hz => hitem z (List.mem_cons_of_mem x hz)) (Nat.le_of_succ_le_succ hbound)
        have hblank : isBlank ',' = false := by decide
        rw [List.map_cons, List.map_cons, List.intercalate_cons_cons, ← List.map_cons,
          List.append_assoc, List.append_assoc, items, hx]
        simp only [Option.bind_eq_bind, Option.bind_some, List.singleton_append,
          skipBlanks_cons hblank, if_neg hcomma.symm, if_true]
        rw [hothers]
        rfl

/-- The texts `ws` put together are at least as long as each of them. -/
lemma length_le_length_intercalate {w : Text} {ws : List Text} (h : w ∈ ws) :
    w.length ≤ (List.intercalate [','] ws).length := by
  induction ws with
  | nil => cases h
  | cons u us ih =>
    cases us with
    | nil =>
      obtain rfl : w = u := by simpa using h
      exact Nat.le_of_eq (by rw [List.intercalate_singleton])
    | cons u' us =>
      rw [List.intercalate_cons_cons, List.length_append, List.length_append]
      rcases List.mem_cons.mp h with rfl | hw
      · omega
      · have := ih hw
        omega

/-- The texts `ws` are at most as many as the characters of what they are put together to, and one
more. -/
lemma length_le_length_intercalate_succ (ws : List Text) :
    ws.length ≤ (List.intercalate [','] ws).length + 1 := by
  induction ws with
  | nil => simp
  | cons w ws ih =>
    cases ws with
    | nil => simp
    | cons u us =>
      rw [List.intercalate_cons_cons, List.length_append, List.length_append]
      simp only [List.length_cons, List.length_nil] at ih ⊢
      omega

/-- The items `xs` between two marks are read back, if each of them is. -/
lemma sequence_intercalate {α : Type} {close : Char} (hclose : isBlank close = false)
    (hcomma : close ≠ ',') {item : Text → Option (α × Text)} (xs : List (Text × α))
    (hopens : ∀ x ∈ xs, ∃ c u, x.1 = c :: u ∧ isBlank c = false ∧ c ≠ close)
    (hitem : ∀ x ∈ xs, ∀ rest, item (x.1 ++ rest) = some (x.2, rest)) (rest : Text) :
    sequence close item (List.intercalate [','] (xs.map Prod.fst) ++ close :: rest) =
      some (xs.map Prod.snd, rest) := by
  cases xs with
  | nil => simp [sequence, skipBlanks_cons hclose]
  | cons x xs =>
    obtain ⟨c, u, hx, hblank, hc⟩ := hopens x List.mem_cons_self
    obtain ⟨more, hmore⟩ : ∃ more,
        List.intercalate [','] ((x :: xs).map Prod.fst) ++ close :: rest = c :: more := by
      cases xs with
      | nil => exact ⟨u ++ close :: rest, by simp [hx]⟩
      | cons y ys =>
        refine ⟨u ++ ',' :: List.intercalate [','] ((y :: ys).map Prod.fst) ++ close :: rest, ?_⟩
        rw [List.map_cons, List.map_cons, List.intercalate_cons_cons, hx]
        simp
    have hbound : (x :: xs).length ≤
        (List.intercalate [','] ((x :: xs).map Prod.fst) ++ close :: rest).length := by
      have hcommas := length_le_length_intercalate_succ ((x :: xs).map Prod.fst)
      have hclosed : 1 ≤ (close :: rest).length := by simp
      rw [List.length_map] at hcommas
      rw [List.length_append]
      omega
    have hitems := items_intercalate hclose hcomma (List.cons_ne_nil x xs) hitem hbound rest
    unfold sequence
    rw [hmore] at hitems ⊢
    simp only [skipBlanks_cons hblank, if_neg hc]
    exact hitems

/-- A text `w` that spells a value begins with neither a blank nor a closing mark. -/
lemma Spells.opens_ne {w : Text} {v : Json} (h : Spells w v) {close : Char}
    (hclose : close = ']' ∨ close = '\x7d') :
    ∃ c u, w = c :: u ∧ isBlank c = false ∧ c ≠ close := by
  obtain ⟨c, u, hcu, hc⟩ := h.opens
  refine ⟨c, u, hcu, ?_⟩
  rcases hc with rfl | rfl | rfl <;> rcases hclose with rfl | rfl <;> decide

/-- An array that `Record.array` writes is read back, if its items are. -/
lemma spells_array (xs : List (Text × Json)) (h : ∀ x ∈ xs, Spells x.1 x.2) :
    Spells (Record.array (xs.map Prod.fst)) (.array (xs.map Prod.snd)) := by
  constructor
  · exact ⟨'[', _, rfl, .inr (.inl rfl)⟩
  · intro depth hdepth rest
    cases depth with
    | zero => simp [Record.array] at hdepth
    | succ depth =>
      have hclose : isBlank ']' = false := by decide
      have hitem : ∀ x ∈ xs, ∀ rest, Json.value depth (x.1 ++ rest) = some (x.2, rest) := by
        intro x hx
        apply (h x hx).value
        have hlength : x.1.length ≤ (List.intercalate [','] (xs.map Prod.fst)).length :=
          length_le_length_intercalate (List.mem_map_of_mem hx)
        simp only [Record.array, List.length_cons, List.length_append, List.length_nil] at hdepth
        omega
      have hsequence := sequence_intercalate hclose (by decide) xs
        (fun x hx => (h x hx).opens_ne (.inl rfl)) hitem rest
      rw [Record.array, List.cons_append, List.cons_append, List.append_assoc,
        List.singleton_append, value_bracket, hsequence]
      rfl

/-- A member of an object is read back, if its value is. -/
lemma member_string {depth : Nat} {key w : Text} {v : Json} (h : Spells w v)
    (hdepth : w.length ≤ depth) (rest : Text) :
    member (value depth) (Record.string key ++ ':' :: w ++ rest) = some ((key, v), rest) := by
  have hbody := body_flatMap_escapeChar key (':' :: (w ++ rest))
  have hvalue := h.value depth hdepth rest
  simp [Record.string, member, skipBlanks_cons, isBlank, hbody, hvalue]

/-- An object that `Record.object` writes is read back, if its values are. -/
lemma spells_object (ms : List (Text × Text × Json)) (h : ∀ m ∈ ms, Spells m.2.1 m.2.2) :
    Spells (Record.object (ms.map fun m => (m.1, m.2.1)))
      (.object (ms.map fun m => (m.1, m.2.2))) := by
  let spelled (m : Text × Text × Json) : Text × Text × Json :=
    (Record.string m.1 ++ ':' :: m.2.1, m.1, m.2.2)
  have hobject : Record.object (ms.map fun m => (m.1, m.2.1)) =
      '\x7b' :: List.intercalate [','] ((ms.map spelled).map Prod.fst) ++ ['\x7d'] := by
    rw [Record.object, List.map_map, List.map_map]
    rfl
  have hmembers : (ms.map fun m => (m.1, m.2.2)) = (ms.map spelled).map Prod.snd := by
    rw [List.map_map]
    rfl
  rw [hobject, hmembers]
  constructor
  · exact ⟨'\x7b', _, rfl, .inr (.inr rfl)⟩
  · intro depth hdepth rest
    cases depth with
    | zero => simp at hdepth
    | succ depth =>
      have hclose : isBlank '\x7d' = false := by decide
      have hopens : ∀ x ∈ ms.map spelled,
          ∃ c u, x.1 = c :: u ∧ isBlank c = false ∧ c ≠ '\x7d' := by
        intro x hx
        obtain ⟨m, -, rfl⟩ := List.mem_map.mp hx
        exact ⟨'"', _, rfl, by decide, by decide⟩
      have hitem : ∀ x ∈ ms.map spelled, ∀ rest,
          member (Json.value depth) (x.1 ++ rest) = some (x.2, rest) := by
        intro x hx
        have hlength : x.1.length ≤
            (List.intercalate [','] ((ms.map spelled).map Prod.fst)).length :=
          length_le_length_intercalate (List.mem_map_of_mem hx)
        obtain ⟨m, hm, rfl⟩ := List.mem_map.mp hx
        apply member_string (h m hm)
        have hshorter : m.2.1.length ≤ (spelled m).1.length := by
          simp only [spelled, List.length_append, List.length_cons]
          omega
        simp only [List.length_cons, List.length_append, List.length_nil] at hdepth
        omega
      have hsequence := sequence_intercalate hclose (by decide) (ms.map spelled) hopens hitem rest
      rw [List.cons_append, List.cons_append, List.append_assoc, List.singleton_append,
        value_brace, hsequence]
      rfl

end Json

/-! ## Records -/

/-- The handler `h` as a JSON value. -/
def Handler.toJson (h : Handler) : Json :=
  .object [(lit "name", .string h.name),
    (lit "route_variables", .array (h.routeVariables.map .string))]

/-- The path `source` of a file and what has been found in it as a JSON value. -/
def Classification.toJson (source : Text) (c : Classification) : Json :=
  .object [(lit "source", .string source), (lit "package_name", .string c.package),
    (lit "handlers", .array (c.handlers.map Handler.toJson))]

/-- Handlers with the same JSON value are the same. -/
lemma Handler.toJson_injective : Function.Injective Handler.toJson := by
  rintro ⟨name, keys⟩ ⟨name', keys'⟩ h
  simp only [toJson, Json.object.injEq, List.cons.injEq, Prod.mk.injEq, Json.string.injEq,
    Json.array.injEq, true_and, and_true] at h
  obtain ⟨rfl, hkeys⟩ := h
  rw [(List.map_inj_right fun _ _ => Json.string.inj).mp hkeys]

/-- Files with the same JSON value have the same path `source`, and the same has been found in them.
-/
lemma Classification.toJson_injective {source source' : Text} {c c' : Classification}
    (h : c.toJson source = c'.toJson source') : source = source' ∧ c = c' := by
  obtain ⟨package, handlers⟩ := c
  obtain ⟨package', handlers'⟩ := c'
  simp only [toJson, Json.object.injEq, List.cons.injEq, Prod.mk.injEq, Json.string.injEq,
    Json.array.injEq, true_and, and_true] at h
  obtain ⟨rfl, rfl, hhandlers⟩ := h
  rw [(List.map_inj_right fun _ _ h => Handler.toJson_injective h).mp hhandlers]
  exact ⟨rfl, rfl⟩

namespace Record

open Json

/-- The texts of the values of `xs` spell the array of the values. -/
lemma spells_array_map {β : Type} {text : β → Text} {json : β → Json}
    (h : ∀ x, Spells (text x) (json x)) (xs : List β) :
    Spells (array (xs.map text)) (.array (xs.map json)) := by
  have hspells := spells_array (xs.map fun x => (text x, json x)) (by
    intro x hx
    obtain ⟨y, -, rfl⟩ := List.mem_map.mp hx
    exact h y)
  rw [List.map_map, List.map_map] at hspells
  exact hspells

lemma spells_ofHandler (h : Handler) : Spells (ofHandler h) h.toJson := by
  have hmembers := spells_object [(lit "name", string h.name, .string h.name),
    (lit "route_variables", array (h.routeVariables.map string),
      .array (h.routeVariables.map .string))] (by
    simp only [List.forall_mem_cons]
    exact ⟨spells_string _, spells_array_map spells_string _, List.forall_mem_nil _⟩)
  exact hmembers

/-- The record of the file `source`, without the line feed that ends its line. -/
def text (source : Text) (c : Classification) : Text :=
  object [(lit "source", string source), (lit "package_name", string c.package),
    (lit "handlers", array (c.handlers.map ofHandler))]

/-- The record of the file `source` is read back by `Json.parse`. -/
lemma parse_text (source : Text) (c : Classification) :
    Json.parse (text source c) = some (c.toJson source) := by
  have hmembers := spells_object [(lit "source", string source, .string source),
    (lit "package_name", string c.package, .string c.package),
    (lit "handlers", array (c.handlers.map ofHandler), .array (c.handlers.map Handler.toJson))] (by
    simp only [List.forall_mem_cons]
    exact ⟨spells_string _, spells_string _, spells_array_map spells_ofHandler _,
      List.forall_mem_nil _⟩)
  exact hmembers.parse

/-! ## Lines -/

/-- A string is written in a single line. -/
lemma newline_not_mem_string (t : Text) : '\n' ∉ string t := by
  have hchar (c : Char) : '\n' ∉ escapeChar c := by
    rcases escapeChar_cases c with ⟨d, hc, -, hd⟩ | ⟨hlow, hc⟩ | ⟨hc, -, -, hlow⟩
    · have hne : d ≠ '\n' := by
        rintro rfl
        simp [simpleEscape?] at hd
      simp [hc, hne.symm]
    · have hhex := Syntax.StringLiteral.newline_not_mem_hexadecimal (Nat.lt_trans hlow (by decide))
      simp [hc, hhex]
    · have hne : c ≠ '\n' := by
        rintro rfl
        exact hlow (by decide)
      simp [hc, hne.symm]
  simp [string, hchar]

lemma newline_not_mem_array {items : List Text} (h : ∀ t ∈ items, '\n' ∉ t) :
    '\n' ∉ array items := by
  have hcomma : '\n' ∉ [','] := by decide
  simp [array, Text.newline_not_mem_intercalate hcomma h]

lemma newline_not_mem_object {members : List (Text × Text)} (h : ∀ m ∈ members, '\n' ∉ m.2) :
    '\n' ∉ object members := by
  have hcomma : '\n' ∉ [','] := by decide
  have hmembers : ∀ t ∈ members.map fun m => string m.1 ++ ':' :: m.2, '\n' ∉ t := by
    intro t ht
    obtain ⟨m, hm, rfl⟩ := List.mem_map.mp ht
    simp [newline_not_mem_string, h m hm]
  simp [object, Text.newline_not_mem_intercalate hcomma hmembers]

/-- A record is written in a single line. -/
lemma newline_not_mem_text (source : Text) (c : Classification) : '\n' ∉ text source c := by
  have hhandler (h : Handler) : '\n' ∉ ofHandler h := by
    apply newline_not_mem_object
    simp only [List.forall_mem_cons]
    refine ⟨newline_not_mem_string _, newline_not_mem_array ?_, List.forall_mem_nil _⟩
    simp [newline_not_mem_string]
  apply newline_not_mem_object
  simp only [List.forall_mem_cons]
  refine ⟨newline_not_mem_string _, newline_not_mem_string _, newline_not_mem_array ?_,
    List.forall_mem_nil _⟩
  simp [hhandler]

/-! ## Many records -/

/-- The lines of the `records`, one after the other. -/
def stream (records : List (Text × Classification)) : Text :=
  records.flatMap fun r => line r.1 r.2

/-- The lines of the `stream` of records are the records, and an empty line behind the last line
feed. -/
lemma lines_stream (records : List (Text × Classification)) :
    Text.lines (stream records) = records.map (fun r => text r.1 r.2) ++ [[]] := by
  have hstream : stream records = Text.unlines (records.map fun r => text r.1 r.2) := by
    rw [stream, Text.unlines, List.flatMap_map]
    rfl
  rw [hstream, Text.lines_unlines_of_forall]
  intro l hl
  obtain ⟨r, -, rfl⟩ := List.mem_map.mp hl
  exact newline_not_mem_text r.1 r.2

/-- Every line of the `stream` of records is read back. -/
lemma parse_lines_stream (records : List (Text × Classification)) :
    (Text.lines (stream records)).dropLast.map Json.parse =
      records.map fun r => some (r.2.toJson r.1) := by
  rw [lines_stream, List.dropLast_concat, List.map_map]
  exact List.map_congr_left fun r _ => parse_text r.1 r.2

/-- Different records have different streams: each line determines its record. -/
lemma stream_injective : Function.Injective stream := by
  intro records records' h
  have hparsed := parse_lines_stream records
  rw [h, parse_lines_stream records'] at hparsed
  refine ((List.map_inj_right ?_).mp hparsed).symm
  rintro ⟨source, c⟩ ⟨source', c'⟩ hsame
  obtain ⟨rfl, rfl⟩ := Classification.toJson_injective (Option.some.inj hsame)
  rfl

end Record

end RouteStubs
