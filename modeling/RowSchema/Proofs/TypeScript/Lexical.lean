import RowSchema.Json.Token
import RowSchema.Proofs.Text.Readable

/-!
# What literals and property names denote

A name in a generated file is read by the lexical grammar of ECMAScript, in the strict form that
modules are read in. Between quotes a backslash starts an escape, and a line may not end. A property
of a type is named by an identifier or by a string in quotes. What is denoted is a sequence of
16-bit units in either case, because an escape may stand for half of a character.

The generator writes names as they are. So the question is which texts denote themselves, and the
answer comes from counting: an escape never denotes as many units as it is long.

## Scope

Octal escapes and `\8`, `\9` are not among the escapes, since modules do not have them. Which
characters beyond ASCII are letters is left open; nothing here depends on it.

## Main definitions

* `TypeScript.Body` — what stands between two quotes, with the units that it denotes
* `TypeScript.Alphabet`, `Alphabet.PropertyName` — the names of properties, with what they denote
* `TypeScript.DenotesLiteral`, `Alphabet.DenotesName` — a text denotes a string

## Main results

* `TypeScript.body_units_iff` — which texts denote themselves between quotes
* `TypeScript.denotesLiteral_quoted_iff` — which texts may be put in quotes as they are
* `TypeScript.Alphabet.denotesName_self_iff` — which texts may be a property name as they are
-/

namespace RowSchema.TypeScript

/-! ### Code units -/

/-- The 16-bit units of a code point: itself, or a surrogate pair. -/
def codeUnits (n : Nat) : List Nat :=
  if n < 0x10000 then [n]
  else [0xD800 + (n - 0x10000) / 0x400, 0xDC00 + (n - 0x10000) % 0x400]

/-- The 16-bit units of a text. -/
def units (cs : List Char) : List Nat :=
  cs.flatMap fun c => codeUnits c.toNat

theorem length_codeUnits (n : Nat) : 1 ≤ (codeUnits n).length ∧ (codeUnits n).length ≤ 2 := by
  unfold codeUnits
  split <;> simp

theorem units_cons (c : Char) (cs : List Char) : units (c :: cs) = codeUnits c.toNat ++ units cs :=
  rfl

theorem units_append (cs ds : List Char) : units (cs ++ ds) = units cs ++ units ds :=
  List.flatMap_append

theorem length_le_length_units (cs : List Char) : cs.length ≤ (units cs).length := by
  induction cs with
  | nil => exact Nat.le_refl 0
  | cons c rest ih =>
    have hc := (length_codeUnits c.toNat).1
    rw [units_cons, List.length_append, List.length_cons]
    omega

/-! ### Escapes -/

/-- The number with the given hexadecimal digits. -/
def hexNumber? (ds : List Char) : Option Nat :=
  ds.foldlM (fun n c => (Json.hexValue? c).map (16 * n + ·)) 0

/-- What may stand behind a backslash for a code point, in strings and in names. -/
inductive UnicodeEscape : List Char → Nat → Prop where
  | four {a b c d : Char} {n : Nat} (h : hexNumber? [a, b, c, d] = some n) :
      UnicodeEscape ['u', a, b, c, d] n
  | braced {ds : List Char} {n : Nat} (hsome : ds ≠ []) (h : hexNumber? ds = some n)
      (hmax : n ≤ 0x10FFFF) : UnicodeEscape ('u' :: '{' :: ds ++ ['}']) n

/-- The characters that stand for a control character behind a backslash. -/
def controlEscapes : List (Char × Nat) :=
  [('b', 0x08), ('t', 0x09), ('n', 0x0A), ('v', 0x0B), ('f', 0x0C), ('r', 0x0D)]

/-- The ends of lines, the last of them written with two characters. -/
def lineEnds : List (List Char) :=
  [['\n'], ['\r'], [Char.ofNat 0x2028], [Char.ofNat 0x2029], ['\r', '\n']]

/-- What may stand behind a backslash in a string, with the units that it denotes. The number zero
is not here, because it depends on what follows. -/
inductive Escape : List Char → List Nat → Prop where
  | control {c : Char} {n : Nat} (h : (c, n) ∈ controlEscapes) : Escape [c] [n]
  /-- Any other character stands for itself, the quotes and the backslash among them. -/
  | itself {c : Char} (hcontrol : c ∉ controlEscapes.map Prod.fst) (hdigit : c.isDigit = false)
      (hletter : c ≠ 'x' ∧ c ≠ 'u') (hline : [c] ∉ lineEnds) : Escape [c] (codeUnits c.toNat)
  | hex {a b : Char} {n : Nat} (h : hexNumber? [a, b] = some n) : Escape ['x', a, b] [n]
  | unicode {e : List Char} {n : Nat} (h : UnicodeEscape e n) : Escape e (codeUnits n)
  /-- A line that goes on denotes nothing. -/
  | continuation {e : List Char} (h : e ∈ lineEnds) : Escape e []

theorem UnicodeEscape.length_lt {e : List Char} {n m : Nat} (h : UnicodeEscape e n) :
    (codeUnits m).length < (units e).length := by
  have hm := (length_codeUnits m).2
  have he := length_le_length_units e
  cases h with
  | four h =>
    simp only [List.length_cons, List.length_nil] at he
    omega
  | @braced ds n hsome h hmax =>
    have hds := List.length_pos_iff.mpr hsome
    simp only [List.length_append, List.length_cons, List.length_nil] at he
    omega

/-- An escape denotes no more units than stand behind the backslash. -/
theorem Escape.length_le {e : List Char} {us : List Nat} (h : Escape e us) :
    us.length ≤ (units e).length := by
  have he := length_le_length_units e
  cases h with
  | control h => exact he
  | itself hcontrol hdigit hletter hline =>
    rw [units_cons]
    simp
  | hex h => exact Nat.le_trans (by simp) he
  | unicode h => exact Nat.le_of_lt h.length_lt
  | continuation h => exact Nat.zero_le _

/-! ### Strings -/

/-- What may stand between two quotes `q`, with the units that it denotes. -/
inductive Body (q : Char) : List Char → List Nat → Prop where
  | nil : Body q [] []
  | plain {c : Char} {rest : List Char} {us : List Nat} (hquote : c ≠ q) (hescape : c ≠ '\\')
      (hfeed : c ≠ '\n') (hreturn : c ≠ '\r') (h : Body q rest us) :
      Body q (c :: rest) (codeUnits c.toNat ++ us)
  | escaped {e rest : List Char} {es us : List Nat} (he : Escape e es) (h : Body q rest us) :
      Body q ('\\' :: (e ++ rest)) (es ++ us)
  | zero {rest : List Char} {us : List Nat} (hend : ∀ c ∈ rest.head?, c.isDigit = false)
      (h : Body q rest us) : Body q ('\\' :: '0' :: rest) (0 :: us)

/-- Characters that stand for themselves between two quotes `q`. -/
def StandsForItself (q c : Char) : Prop :=
  c ≠ q ∧ c ≠ '\\' ∧ c ≠ '\n' ∧ c ≠ '\r'

/-- A text denotes at most as many units as it has, and fewer with an escape in it. -/
theorem Body.length_le {q : Char} {cs : List Char} {us : List Nat} (h : Body q cs us) :
    us.length ≤ (units cs).length ∧
      (us.length = (units cs).length → ∀ c ∈ cs, StandsForItself q c) := by
  induction h with
  | nil => exact ⟨Nat.le_refl 0, fun _ => nofun⟩
  | @plain c rest us hquote hescape hfeed hreturn _ ih =>
    rw [units_cons, List.length_append, List.length_append]
    refine ⟨by omega, fun heq => List.forall_mem_cons.mpr ⟨?_, ih.2 (by omega)⟩⟩
    exact ⟨hquote, hescape, hfeed, hreturn⟩
  | @escaped e rest es us he _ ih =>
    have hes := he.length_le
    have hbackslash := (length_codeUnits '\\'.toNat).1
    rw [units_cons, units_append, List.length_append, List.length_append, List.length_append]
    exact ⟨by omega, fun heq => by omega⟩
  | @zero rest us hend _ ih =>
    have hbackslash := (length_codeUnits '\\'.toNat).1
    have hzero := (length_codeUnits '0'.toNat).1
    rw [units_cons, units_cons, List.length_append, List.length_append, List.length_cons]
    exact ⟨by omega, fun heq => by omega⟩

/-- In front of anything else, characters that stand for themselves do so. -/
theorem body_append {q : Char} {cs rest : List Char} {us : List Nat}
    (h : ∀ c ∈ cs, StandsForItself q c) (hrest : Body q rest us) :
    Body q (cs ++ rest) (units cs ++ us) := by
  induction cs with
  | nil => exact hrest
  | cons c cs ih =>
    obtain ⟨⟨hquote, hescape, hfeed, hreturn⟩, hcs⟩ := List.forall_mem_cons.mp h
    rw [units_cons, List.append_assoc]
    exact .plain hquote hescape hfeed hreturn (ih hcs)

theorem body_units {q : Char} {cs : List Char} (h : ∀ c ∈ cs, StandsForItself q c) :
    Body q cs (units cs) := by
  have hbody := body_append h .nil
  rwa [List.append_nil, List.append_nil] at hbody

/-- **Between quotes** a text denotes itself if it has neither the quote nor a backslash nor a line
break, and only then. -/
theorem body_units_iff {q : Char} {cs : List Char} :
    Body q cs (units cs) ↔ ∀ c ∈ cs, StandsForItself q c :=
  ⟨fun h => h.length_le.2 rfl, body_units⟩

/-- The text is a literal in double quotes that denotes `v`. -/
def DenotesLiteral (text v : String) : Prop :=
  ∃ body, text.toList = '"' :: body ++ ['"'] ∧ Body '"' body (units v.toList)

/-- A text without quotes, backslashes and line breaks. -/
def IsVerbatim (s : String) : Prop :=
  ∀ c ∈ s.toList, StandsForItself '"' c

instance (q c : Char) : Decidable (StandsForItself q c) :=
  inferInstanceAs (Decidable (c ≠ q ∧ c ≠ '\\' ∧ c ≠ '\n' ∧ c ≠ '\r'))

instance (s : String) : Decidable (IsVerbatim s) :=
  List.decidableBAll (StandsForItself '"') s.toList

theorem denotesLiteral_quoted_iff (s : String) :
    DenotesLiteral ("\"" ++ s ++ "\"") s ↔ IsVerbatim s := by
  have htext : ("\"" ++ s ++ "\"").toList = '"' :: s.toList ++ ['"'] := by
    rw [String.toList_append, String.toList_append]
    rfl
  rw [DenotesLiteral, IsVerbatim, ← body_units_iff, htext]
  constructor
  · rintro ⟨body, hbody, h⟩
    simp only [List.cons_append, List.cons.injEq, true_and, List.append_cancel_right_eq] at hbody
    rwa [← hbody] at h
  · exact fun h => ⟨s.toList, rfl, h⟩

/-! ### Property names -/

/-- The characters of identifiers: those that one starts with, and those that it goes on with. -/
structure Alphabet where
  starts : Char → Bool
  continues : Char → Bool
  starts_ascii : ∀ c : Char, c.toNat < 128 → starts c = (c.isAlpha || c == '_' || c == '$')
  continues_ascii : ∀ c : Char, c.toNat < 128 → continues c = (c.isAlphanum || c == '_' || c == '$')

namespace Alphabet

/-- Every character beyond ASCII is let through. -/
def permissive : Alphabet where
  starts c := Text.isIdentifierChar c && !c.isDigit
  continues := Text.isIdentifierChar
  starts_ascii c h := by
    have hascii : ∀ n < 128, (Text.isIdentifierChar (Char.ofNat n) && !(Char.ofNat n).isDigit) =
        ((Char.ofNat n).isAlpha || Char.ofNat n == '_' || Char.ofNat n == '$') := by
      decide
    rw [← Char.ofNat_toNat c]
    exact hascii c.toNat h
  continues_ascii c h := by
    rw [Text.isIdentifierChar, decide_eq_false (Nat.not_le.mpr h), Bool.or_false]

/-- One character of an identifier, as it is or as an escape. -/
inductive NameChar (allowed : Char → Bool) : List Char → Char → Prop where
  | plain {c : Char} (h : allowed c = true) : NameChar allowed [c] c
  | escape {e : List Char} {c : Char} (h : allowed c = true) (he : UnicodeEscape e c.toNat) :
      NameChar allowed ('\\' :: e) c

/-- What may follow the first character of an identifier, with the units that it denotes. -/
inductive NameRest (A : Alphabet) : List Char → List Nat → Prop where
  | nil : NameRest A [] []
  | cons {e rest : List Char} {c : Char} {us : List Nat} (hc : NameChar A.continues e c)
      (h : NameRest A rest us) : NameRest A (e ++ rest) (codeUnits c.toNat ++ us)

/-- The name of a property: an identifier, or a string in quotes of either kind. -/
inductive PropertyName (A : Alphabet) : List Char → List Nat → Prop where
  | identifier {e rest : List Char} {c : Char} {us : List Nat} (hc : NameChar A.starts e c)
      (h : NameRest A rest us) : PropertyName A (e ++ rest) (codeUnits c.toNat ++ us)
  | quoted {q : Char} {body : List Char} {us : List Nat} (hq : q ∈ ['"', '\''])
      (h : Body q body us) : PropertyName A (q :: body ++ [q]) us

/-- The text is the name of a property, and denotes `v`. -/
def DenotesName (A : Alphabet) (text v : String) : Prop :=
  A.PropertyName text.toList (units v.toList)

/-- A text of letters, digits and the like that does not start with a digit. -/
def IsName (A : Alphabet) (s : String) : Prop :=
  ∃ c rest, s.toList = c :: rest ∧ A.starts c = true ∧ ∀ c' ∈ rest, A.continues c' = true

variable {A : Alphabet} {allowed : Char → Bool} {e cs : List Char} {c : Char} {us : List Nat}

/-- A character denotes at most as many units as it is written with, and fewer if it is escaped. -/
theorem NameChar.length_le (h : NameChar allowed e c) :
    (codeUnits c.toNat).length ≤ (units e).length ∧
      ((codeUnits c.toNat).length = (units e).length → e = [c] ∧ allowed c = true) := by
  cases h with
  | plain h => simp [units, h]
  | @escape e _ h he =>
    have hlt : (codeUnits c.toNat).length < (units e).length := he.length_lt
    rw [units_cons, List.length_append]
    exact ⟨by omega, fun heq => by omega⟩

theorem NameRest.length_le (h : A.NameRest cs us) :
    us.length ≤ (units cs).length ∧
      (us.length = (units cs).length → ∀ c ∈ cs, A.continues c = true) := by
  induction h with
  | nil => exact ⟨Nat.le_refl 0, fun _ => nofun⟩
  | @cons e rest c us hc _ ih =>
    obtain ⟨hle, heqOf⟩ := hc.length_le
    rw [units_append, List.length_append, List.length_append]
    refine ⟨by omega, fun heq => ?_⟩
    obtain ⟨rfl, hallowed⟩ := heqOf (by omega)
    exact List.forall_mem_cons.mpr ⟨hallowed, ih.2 (by omega)⟩

theorem nameRest_units (h : ∀ c ∈ cs, A.continues c = true) : A.NameRest cs (units cs) := by
  induction cs with
  | nil => exact .nil
  | cons c rest ih =>
    obtain ⟨hc, hrest⟩ := List.forall_mem_cons.mp h
    exact .cons (.plain hc) (ih hrest)

/-- **As a property name** a text denotes itself if it is an identifier without escapes, and only
then. In quotes it would denote less than itself. -/
theorem denotesName_self_iff (A : Alphabet) (s : String) : A.DenotesName s s ↔ A.IsName s := by
  rw [DenotesName, IsName]
  constructor
  · intro h
    generalize hus : units s.toList = us at h
    generalize hcs : s.toList = cs at h hus
    cases h with
    | @identifier e rest c us hc h =>
      have hlength := congrArg List.length hus
      obtain ⟨hle, heqOf⟩ := hc.length_le
      obtain ⟨hrestLe, hrestOf⟩ := h.length_le
      rw [units_append, List.length_append, List.length_append] at hlength
      obtain ⟨rfl, hallowed⟩ := heqOf (by omega)
      exact ⟨c, rest, rfl, hallowed, hrestOf (by omega)⟩
    | @quoted q body us hq h =>
      have hlength := congrArg List.length hus
      have hbody := h.length_le.1
      have hquote := (length_codeUnits q.toNat).1
      rw [List.cons_append, units_cons, units_append, List.length_append,
        List.length_append] at hlength
      omega
  · rintro ⟨c, rest, hs, hc, hrest⟩
    rw [hs]
    exact .identifier (.plain hc) (nameRest_units hrest)

/-- Any ASCII character but letters, digits, `_` and `$` keeps a text from being a name. -/
theorem not_isName_of_mem {s : String} (hc : c ∈ s.toList) (hascii : c.toNat < 128)
    (hother : (c.isAlphanum || c == '_' || c == '$') = false) : ¬ A.IsName s := by
  rintro ⟨first, rest, hs, hfirst, hrest⟩
  rw [hs] at hc
  rcases List.mem_cons.mp hc with rfl | hc
  · rw [A.starts_ascii c hascii] at hfirst
    rw [Char.isAlphanum] at hother
    simp_all
  · have hallowed := hrest c hc
    rw [A.continues_ascii c hascii, hother] at hallowed
    cases hallowed

end Alphabet

end RowSchema.TypeScript
