import FilterQuery.Proofs.Grammar
import FilterQuery.Proofs.Runs
import FilterQuery.Text.Hex

/-!
# The grammar of JSON

`Json.IsText text v` says that a text is JSON for a value. Strings are sequences of UTF-16 code
units, since an escape may stand for half of a pair; numbers are kept as they are written, and
members of objects in their order. `Json.IsText.unique` says that a text stands for one value only.

All parts of JSON but numbers show where they end, and a number ends where a character follows that
no number has. `Determined p Part a` says this for one value: two texts of `Part` that start the
same text are equal if each is followed by nothing or by a character with `p`. It is proved for each
rule of the grammar from the rules that it uses, and for values by induction on the value.
-/

namespace FilterQuery

open Grammar

/-! ### Code units -/

namespace Utf16

/-- The code units of a character: its code point, or a pair of surrogates. -/
def units (c : Char) : List UInt16 :=
  if c.toNat < 0x10000 then [UInt16.ofNat c.toNat]
  else [UInt16.ofNat (0xd800 + (c.toNat - 0x10000) / 0x400),
    UInt16.ofNat (0xdc00 + (c.toNat - 0x10000) % 0x400)]

/-- The code units of a text. -/
def encode (text : List Char) : List UInt16 :=
  text.flatMap units

theorem units_append_inj {c d : Char} {us vs : List UInt16} (h : units c ++ us = units d ++ vs) :
    c = d ∧ us = vs := by
  -- no character is a surrogate, so the first unit says whether a second one belongs to it
  have hvalid (c : Char) : c.toNat < 0xd800 ∨ 0xdfff < c.toNat ∧ c.toNat < 0x110000 := c.valid
  have hc := hvalid c
  have hd := hvalid d
  have hinj {m n : Nat} (hm : m < 65536) (hn : n < 65536)
      (h : UInt16.ofNat m = UInt16.ofNat n) : m = n := by
    have hu := congrArg UInt16.toNat h
    rwa [UInt16.toNat_ofNat_of_lt' hm, UInt16.toNat_ofNat_of_lt' hn] at hu
  unfold units at h
  split at h <;> split at h
  · obtain ⟨hu, rfl⟩ := List.cons.inj h
    exact ⟨Char.toNat_inj.1 (hinj (by omega) (by omega) hu), rfl⟩
  · have hu := hinj (by omega) (by omega) (List.cons.inj h).1
    omega
  · have hu := hinj (by omega) (by omega) (List.cons.inj h).1
    omega
  · obtain ⟨hhigh, h⟩ := List.cons.inj h
    obtain ⟨hlow, rfl⟩ := List.cons.inj h
    have hhigh := hinj (by omega) (by omega) hhigh
    have hlow := hinj (by omega) (by omega) hlow
    exact ⟨Char.toNat_inj.1 (by omega), rfl⟩

theorem encode_cons_ne_nil (c : Char) (text : List Char) : encode (c :: text) ≠ [] := by
  rw [encode, List.flatMap_cons, units]
  split <;> simp

theorem encode_injective : Function.Injective encode := by
  intro s t h
  induction s generalizing t with
  | nil =>
    cases t with
    | nil => rfl
    | cons d t => exact absurd h.symm (encode_cons_ne_nil d t)
  | cons c s ih =>
    cases t with
    | nil => exact absurd h (encode_cons_ne_nil c s)
    | cons d t =>
      obtain ⟨rfl, hrest⟩ := units_append_inj h
      rw [ih hrest]

end Utf16

/-! ### Values and texts -/

/-- A value of JSON. -/
inductive Json where
  | null
  | bool (b : Bool)
  | number (literal : List Char)
  | string (units : List UInt16)
  | array (elements : List Json)
  | object (members : List (List UInt16 × Json))

namespace Json

def isSpace (c : Char) : Bool :=
  c == ' ' || c == '\t' || c == '\n' || c == '\r'

/-- White space, or nothing. -/
def Space (text : List Char) : Prop :=
  ∀ c ∈ text, isSpace c = true

/-- One or more digits. -/
def Digits (text : List Char) : Prop :=
  text ≠ [] ∧ ∀ c ∈ text, c.isDigit = true

/-- A number: a sign, an integer without leading zeros, a fraction and an exponent, all but the
integer optional. -/
inductive IsNumber : List Char → Prop
  | mk {sign integer fraction exponent : List Char} (hsign : sign = [] ∨ sign = ['-'])
      (hinteger : integer = ['0'] ∨ Digits integer ∧ integer.head? ≠ some '0')
      (hfraction : fraction = [] ∨ ∃ digits, fraction = '.' :: digits ∧ Digits digits)
      (hexponent : exponent = [] ∨ ∃ e sign digits, exponent = e :: (sign ++ digits) ∧
        (e = 'e' ∨ e = 'E') ∧ (sign = [] ∨ sign = ['+'] ∨ sign = ['-']) ∧ Digits digits) :
      IsNumber (sign ++ (integer ++ (fraction ++ exponent)))

/-- What a backslash and one character stand for. -/
def short? : Char → Option UInt16
  | '"' => some 0x22
  | '\\' => some 0x5c
  | '/' => some 0x2f
  | 'b' => some 0x08
  | 'f' => some 0x0c
  | 'n' => some 0x0a
  | 'r' => some 0x0d
  | 't' => some 0x09
  | _ => none

/-- A character in a string, or an escape. -/
inductive IsPiece : List Char → List UInt16 → Prop
  | plain {c : Char} (hq : c ≠ '"') (hb : c ≠ '\\') (hc : 0x20 ≤ c.toNat) :
      IsPiece [c] (Utf16.units c)
  | short {c : Char} {u : UInt16} (h : short? c = some u) : IsPiece ['\\', c] [u]
  | code {a b c d : Char} {i j k l : Nat} (ha : Hex.value? a = some i) (hb : Hex.value? b = some j)
      (hc : Hex.value? c = some k) (hd : Hex.value? d = some l) :
      IsPiece ['\\', 'u', a, b, c, d] [UInt16.ofNat (((i * 16 + j) * 16 + k) * 16 + l)]

/-- What stands between the quotes of a string. -/
inductive IsContent : List Char → List UInt16 → Prop
  | nil : IsContent [] []
  | cons {piece text : List Char} {us vs : List UInt16} (h : IsPiece piece us)
      (hs : IsContent text vs) : IsContent (piece ++ text) (us ++ vs)

inductive IsString : List Char → List UInt16 → Prop
  | mk {text : List Char} {us : List UInt16} (h : IsContent text us) :
      IsString ('"' :: (text ++ ['"'])) us

section

variable {α : Type} (Part : List Char → α → Prop)

/-- A part with white space around it. -/
inductive Padded : List Char → α → Prop
  | mk {left text right : List Char} {a : α} (hl : Space left) (h : Part text a)
      (hr : Space right) : Padded (left ++ (text ++ right)) a

/-- Parts with commas between them, in brackets. -/
inductive Bracketed (opening closing : Char) : List Char → List α → Prop
  | empty {text : List Char} (h : Space text) :
      Bracketed opening closing (opening :: (text ++ [closing])) []
  | parts {text : List Char} {as : List α} (h : Joined ',' Part text as) :
      Bracketed opening closing (opening :: (text ++ [closing])) as

end

/-- A name and a value, with a colon between them. -/
inductive IsMember (Value : List Char → Json → Prop) : List Char → List UInt16 × Json → Prop
  | mk {name text : List Char} {us : List UInt16} {v : Json} (hn : Padded IsString name us)
      (hv : Padded Value text v) : IsMember Value (name ++ ':' :: text) (us, v)

def boolText : Bool → List Char
  | true => ['t', 'r', 'u', 'e']
  | false => ['f', 'a', 'l', 's', 'e']

inductive IsValue : List Char → Json → Prop
  | null : IsValue ['n', 'u', 'l', 'l'] .null
  | bool (b : Bool) : IsValue (boolText b) (.bool b)
  | number {text : List Char} (h : IsNumber text) : IsValue text (.number text)
  | string {text : List Char} {us : List UInt16} (h : IsString text us) : IsValue text (.string us)
  | array {text : List Char} {vs : List Json} (h : Bracketed (Padded IsValue) '[' ']' text vs) :
      IsValue text (.array vs)
  | object {text : List Char} {ms : List (List UInt16 × Json)}
      (h : Bracketed (IsMember IsValue) '\x7b' '\x7d' text ms) : IsValue text (.object ms)

/-- A text is JSON for a value. -/
def IsText : List Char → Json → Prop :=
  Padded IsValue

/-! ### Where a part ends -/

/-- Two texts that start the same text, one of them for a given value, are the same and stand for
the same value, if each is followed by nothing or by a character as given. -/
def Determined {α : Type} (p : Char → Prop) (Part : List Char → α → Prop) (a : α) : Prop :=
  ∀ ⦃text text' rest rest' : List Char⦄ ⦃a' : α⦄, Part text a → Part text' a' → Next p rest →
    Next p rest' → text ++ rest = text' ++ rest' → text = text' ∧ a = a'

/-- The characters that numbers are made of. -/
def inNumber (c : Char) : Bool :=
  c.isDigit || c == '-' || c == '+' || c == '.' || c == 'e' || c == 'E'

/-- The characters between and after parts. -/
def Delimits (c : Char) : Prop :=
  c = ',' ∨ c = ':' ∨ c = ']' ∨ c = '\x7d'

/-- A text starts with a character that is neither white space nor a delimiter. -/
def Opens (text : List Char) : Prop :=
  ∃ c rest, text = c :: rest ∧ isSpace c = false ∧ ¬Delimits c

/-- A text opens after white space. -/
def Leads (text : List Char) : Prop :=
  ∃ left rest, text = left ++ rest ∧ Space left ∧ Opens rest

variable {α : Type} {Part : List Char → α → Prop} {p q : Char → Prop} {a : α} {as : List α}
  {text text' rest rest' : List Char} {us us' : List UInt16} {c : Char} {v v' : Json}

theorem Delimits.isSpace (h : Delimits c) : isSpace c = false := by
  rcases h with rfl | rfl | rfl | rfl <;> rfl

theorem Delimits.inNumber (h : Delimits c) : inNumber c = false := by
  rcases h with rfl | rfl | rfl | rfl <;> rfl

theorem inNumber_of_isSpace (h : Json.isSpace c = true) : Json.inNumber c = false := by
  simp only [Json.isSpace, Bool.or_eq_true, beq_iff_eq] at h
  rcases h with ((rfl | rfl) | rfl) | rfl <;> rfl

theorem Opens.append (h : Opens text) (rest : List Char) : Opens (text ++ rest) := by
  obtain ⟨c, tail, rfl, hs, hd⟩ := h
  exact ⟨c, tail ++ rest, rfl, hs, hd⟩

theorem Opens.next (h : Opens text) : Next (isSpace · = false) text := by
  obtain ⟨c, tail, rfl, hs, -⟩ := h
  exact Next.cons hs

theorem Leads.append (h : Leads text) (rest : List Char) : Leads (text ++ rest) := by
  obtain ⟨left, tail, rfl, hl, ho⟩ := h
  exact ⟨left, tail ++ rest, by simp, hl, ho.append rest⟩

/-- White space before a delimiter leads to nothing. -/
theorem Leads.ne_space (h : Leads text) (hs : Space text') (hc : Delimits c) :
    text ≠ text' ++ c :: rest := by
  obtain ⟨left, tail, rfl, hl, ho⟩ := h
  intro he
  obtain ⟨-, rfl⟩ := run_unique hl hs ho.next (Next.cons hc.isSpace) he
  obtain ⟨d, tail, hd, -, hnd⟩ := ho
  obtain ⟨rfl, -⟩ := List.cons.inj hd
  exact hnd hc

/-! ### Strings -/

theorem IsPiece.unique (h : IsPiece text us) (h' : IsPiece text' us')
    (he : text ++ rest = text' ++ rest') : text = text' ∧ us = us' := by
  cases h with
  | plain hq hb hc =>
    cases h' with
    | plain _ _ _ =>
      obtain ⟨rfl, -⟩ := List.cons.inj he
      exact ⟨rfl, rfl⟩
    | short _ => exact absurd (List.cons.inj he).1 hb
    | code _ _ _ _ => exact absurd (List.cons.inj he).1 hb
  | short hu =>
    simp only [List.cons_append, List.nil_append] at he
    cases h' with
    | plain _ hb _ => exact absurd (List.cons.inj he).1.symm hb
    | short hu' =>
      obtain ⟨rfl, -⟩ := List.cons.inj (List.cons.inj he).2
      obtain rfl := Option.some.inj (hu.symm.trans hu')
      exact ⟨rfl, rfl⟩
    | code _ _ _ _ =>
      obtain ⟨rfl, -⟩ := List.cons.inj (List.cons.inj he).2
      simp [short?] at hu
  | code ha hb hc hd =>
    simp only [List.cons_append, List.nil_append] at he
    cases h' with
    | plain _ hb _ => exact absurd (List.cons.inj he).1.symm hb
    | short hu =>
      obtain ⟨rfl, -⟩ := List.cons.inj (List.cons.inj he).2
      simp [short?] at hu
    | code ha' hb' hc' hd' =>
      obtain ⟨-, -, rfl, rfl, rfl, rfl, -⟩ := by simpa only [List.cons.injEq] using he
      obtain rfl := Option.some.inj (ha.symm.trans ha')
      obtain rfl := Option.some.inj (hb.symm.trans hb')
      obtain rfl := Option.some.inj (hc.symm.trans hc')
      obtain rfl := Option.some.inj (hd.symm.trans hd')
      exact ⟨rfl, rfl⟩

theorem IsPiece.exists_cons (h : IsPiece text us) : ∃ c tail, text = c :: tail ∧ c ≠ '"' := by
  cases h with
  | plain hq _ _ => exact ⟨_, _, rfl, hq⟩
  | short _ => exact ⟨_, _, rfl, by decide⟩
  | code _ _ _ _ => exact ⟨_, _, rfl, by decide⟩

/-- The content of a string ends at the first quote that no piece has. -/
theorem IsContent.unique (h : IsContent text us) (h' : IsContent text' us')
    (he : text ++ '"' :: rest = text' ++ '"' :: rest') : text = text' ∧ us = us' := by
  induction h generalizing text' us' with
  | nil =>
    cases h' with
    | nil => exact ⟨rfl, rfl⟩
    | cons hp _ =>
      obtain ⟨c, tail, rfl, hc⟩ := hp.exists_cons
      simp only [List.nil_append, List.cons_append, List.cons.injEq] at he
      exact absurd he.1.symm hc
  | cons hp _ ih =>
    cases h' with
    | nil =>
      obtain ⟨c, tail, rfl, hc⟩ := hp.exists_cons
      simp only [List.nil_append, List.cons_append, List.cons.injEq] at he
      exact absurd he.1 hc
    | cons hp' hs' =>
      rw [List.append_assoc, List.append_assoc] at he
      obtain ⟨rfl, rfl⟩ := hp.unique hp' he
      obtain ⟨rfl, rfl⟩ := ih hs' (List.append_cancel_left he)
      exact ⟨rfl, rfl⟩

theorem determined_string (us : List UInt16) : Determined p IsString us := by
  rintro _ _ rest rest' us' ⟨h⟩ ⟨h'⟩ - - he
  simp only [List.cons_append, List.append_assoc, List.nil_append, List.cons.injEq, true_and] at he
  obtain ⟨rfl, rfl⟩ := h.unique h' he
  exact ⟨rfl, rfl⟩

theorem IsString.opens (h : IsString text us) : Opens text := by
  obtain ⟨h⟩ := h
  exact ⟨'"', _, rfl, rfl, by simp [Delimits]⟩

/-! ### Numbers -/

theorem Digits.inNumber (h : Digits text) : ∀ c ∈ text, inNumber c = true := by
  intro c hc
  simp [Json.inNumber, h.2 c hc]

theorem IsNumber.inNumber (h : IsNumber text) : ∀ c ∈ text, inNumber c = true := by
  obtain ⟨hs, hi, hf, he⟩ := h
  intro c hc
  simp only [List.mem_append] at hc
  rcases hc with hc | hc | hc | hc
  · rcases hs with rfl | rfl
    · simp at hc
    · simp_all [Json.inNumber]
  · rcases hi with rfl | ⟨hi, -⟩
    · simp_all [Json.inNumber]
    · exact hi.inNumber c hc
  · rcases hf with rfl | ⟨digits, rfl, hd⟩
    · simp at hc
    · rcases List.mem_cons.1 hc with rfl | hc
      · rfl
      · exact hd.inNumber c hc
  · rcases he with rfl | ⟨e, sign, digits, rfl, hE, hsign, hd⟩
    · simp at hc
    · rcases List.mem_cons.1 hc with rfl | hc
      · rcases hE with rfl | rfl <;> rfl
      · rcases List.mem_append.1 hc with hc | hc
        · rcases hsign with rfl | rfl | rfl <;> simp_all [Json.inNumber]
        · exact hd.inNumber c hc

theorem IsNumber.exists_cons (h : IsNumber text) :
    ∃ c tail, text = c :: tail ∧ (c = '-' ∨ c.isDigit = true) := by
  obtain ⟨hs, hi, -, -⟩ := h
  rcases hs with rfl | rfl
  · rcases hi with rfl | ⟨⟨hne, hd⟩, -⟩
    · exact ⟨_, _, rfl, .inr rfl⟩
    · obtain ⟨c, tail, rfl⟩ := List.exists_cons_of_ne_nil hne
      exact ⟨_, _, rfl, .inr (hd c (by simp))⟩
  · exact ⟨_, _, rfl, .inl rfl⟩

/-! ### Padded, joined and bracketed parts -/

theorem Padded.leads (ho : ∀ {text a}, Part text a → Opens text) (h : Padded Part text a) :
    Leads text := by
  obtain ⟨hl, hp, -⟩ := h
  exact ⟨_, _, rfl, hl, (ho hp).append _⟩

theorem determined_padded (ho : ∀ {text a}, Part text a → Opens text)
    (h : Determined (inNumber · = false) Part a) : Determined Delimits (Padded Part) a := by
  -- white space and delimiters are in no number, so the part inside is determined
  have hnext {right rest : List Char} (hr : Space right) (hd : Next Delimits rest) :
      Next (inNumber · = false) (right ++ rest) :=
    Next.append (fun c hc => inNumber_of_isSpace (hr c hc)) (hd.mono fun c => Delimits.inNumber)
  rintro _ _ rest rest' a' ⟨hl, hp, hr⟩ ⟨hl', hp', hr'⟩ hd hd' he
  simp only [List.append_assoc] at he
  obtain ⟨rfl, hpart⟩ := run_unique hl hl' ((ho hp).append _).next ((ho hp').append _).next he
  obtain ⟨rfl, rfl⟩ := h hp hp' (hnext hr hd) (hnext hr' hd') hpart
  obtain ⟨rfl, -⟩ := run_unique hr hr' (hd.mono fun c => Delimits.isSpace)
    (hd'.mono fun c => Delimits.isSpace) (List.append_cancel_left hpart)
  exact ⟨rfl, rfl⟩

theorem determined_joined (h : ∀ a ∈ as, Determined Delimits Part a) :
    Determined (fun c => Delimits c ∧ c ≠ ',') (Joined ',' Part) as := by
  intro text text' rest rest' as' hj hj' hd hd' he
  have hcomma {rest : List Char} : Next Delimits (',' :: rest) := Next.cons (.inl rfl)
  have hdel {rest : List Char} (h : Next (fun c => Delimits c ∧ c ≠ ',') rest) :
      Next Delimits rest := h.mono fun c hc => hc.1
  induction hj generalizing text' as' with
  | last hp =>
    cases hj' with
    | last hp' =>
      obtain ⟨rfl, rfl⟩ := h _ (by simp) hp hp' (hdel hd) (hdel hd') he
      exact ⟨rfl, rfl⟩
    | cons hp' _ =>
      rw [List.append_assoc] at he
      obtain ⟨rfl, -⟩ := h _ (by simp) hp hp' (hdel hd) hcomma he
      rw [List.append_cancel_left he] at hd
      exact absurd rfl hd.of_cons.2
  | cons hp _ ih =>
    rw [List.append_assoc] at he
    cases hj' with
    | last hp' =>
      obtain ⟨rfl, -⟩ := h _ (by simp) hp hp' hcomma (hdel hd') he
      rw [← List.append_cancel_left he] at hd'
      exact absurd rfl hd'.of_cons.2
    | cons hp' hs' =>
      rw [List.append_assoc] at he
      obtain ⟨rfl, rfl⟩ := h _ (by simp) hp hp' hcomma hcomma he
      have he := (List.cons.inj (List.append_cancel_left he)).2
      obtain ⟨rfl, rfl⟩ := ih (fun a ha => h a (by simp [ha])) hs' he
      exact ⟨rfl, rfl⟩

theorem leads_of_joined (hl : ∀ {text a}, Part text a → Leads text) (h : Joined ',' Part text as) :
    Leads text := by
  cases h with
  | last h => exact hl h
  | cons h _ => exact (hl h).append _

theorem Bracketed.exists_body {opening closing : Char}
    (h : Bracketed Part opening closing text as) : ∃ body, text = opening :: (body ++ [closing]) ∧
      (Space body ∧ as = [] ∨ Joined ',' Part body as) := by
  cases h with
  | empty hs => exact ⟨_, rfl, .inl ⟨hs, rfl⟩⟩
  | parts hj => exact ⟨_, rfl, .inr hj⟩

theorem determined_bracketed {opening closing : Char} (hc : Delimits closing)
    (hne : closing ≠ ',') (hl : ∀ {text a}, Part text a → Leads text)
    (h : ∀ a ∈ as, Determined Delimits Part a) :
    Determined p (Bracketed Part opening closing) as := by
  intro _ _ rest rest' as' hb hb' _ _ he
  obtain ⟨body, rfl, hbody⟩ := hb.exists_body
  obtain ⟨body', rfl, hbody'⟩ := hb'.exists_body
  have he : body ++ closing :: rest = body' ++ closing :: rest' := by simpa using he
  suffices hsame : body = body' ∧ as = as' from ⟨by rw [hsame.1], hsame.2⟩
  rcases hbody with ⟨hs, rfl⟩ | hj
  · rcases hbody' with ⟨hs', rfl⟩ | hj'
    · exact ⟨(run_unique hs hs' (Next.cons hc.isSpace) (Next.cons hc.isSpace) he).1, rfl⟩
    · exact absurd he.symm (((leads_of_joined hl hj').append _).ne_space hs hc)
  · rcases hbody' with ⟨hs', rfl⟩ | hj'
    · exact absurd he (((leads_of_joined hl hj).append _).ne_space hs' hc)
    · exact determined_joined h hj hj' (Next.cons ⟨hc, hne⟩) (Next.cons ⟨hc, hne⟩) he

theorem Bracketed.head? {opening closing : Char} (h : Bracketed Part opening closing text as) :
    text.head? = some opening := by
  cases h <;> rfl

/-! ### Values -/

theorem IsMember.leads {Value : List Char → Json → Prop} {m : List UInt16 × Json}
    (h : IsMember Value text m) : Leads text := by
  obtain ⟨hn, -⟩ := h
  exact (hn.leads IsString.opens).append _

theorem determined_member {Value : List Char → Json → Prop} {m : List UInt16 × Json}
    (hv : Determined Delimits (Padded Value) m.2) : Determined Delimits (IsMember Value) m := by
  have hcolon {rest : List Char} : Next Delimits (':' :: rest) := Next.cons (.inr (.inl rfl))
  rintro _ _ rest rest' m' ⟨hn, ht⟩ ⟨hn', ht'⟩ hd hd' he
  rw [List.append_assoc, List.append_assoc] at he
  have hname := determined_padded IsString.opens (determined_string _) hn hn' hcolon hcolon he
  obtain ⟨rfl, rfl⟩ := hname
  obtain ⟨rfl, rfl⟩ := hv ht ht' hd hd' (List.cons.inj (List.append_cancel_left he)).2
  exact ⟨rfl, rfl⟩

/-- The kinds of values, which the first character of a text tells apart. -/
inductive Kind where
  | null
  | bool
  | number
  | string
  | array
  | object

def kind : Json → Kind
  | null => .null
  | bool _ => .bool
  | number _ => .number
  | string _ => .string
  | array _ => .array
  | object _ => .object

/-- The kind of the values that are written with a first character. -/
def Kind.ofStart : Char → Kind
  | 'n' => .null
  | 't' => .bool
  | 'f' => .bool
  | '"' => .string
  | '[' => .array
  | '\x7b' => .object
  | _ => .number

theorem IsNumber.exists_start (h : IsNumber text) :
    ∃ c, text.head? = some c ∧ isSpace c = false ∧ ¬Delimits c ∧ Kind.ofStart c = .number := by
  obtain ⟨c, tail, rfl, hc⟩ := h.exists_cons
  have hn : Json.inNumber c = true := h.inNumber c (by simp)
  refine ⟨c, rfl, ?_, fun hd => ?_, ?_⟩
  · by_contra hs
    rw [inNumber_of_isSpace (by simpa using hs)] at hn
    exact absurd hn (by decide)
  · rw [hd.inNumber] at hn
    exact absurd hn (by decide)
  · rcases hc with rfl | hc
    · rfl
    · unfold Kind.ofStart
      split <;> first | rfl | exact absurd hc (by decide)

theorem IsValue.exists_start (h : IsValue text v) :
    ∃ c, text.head? = some c ∧ isSpace c = false ∧ ¬Delimits c ∧ Kind.ofStart c = v.kind := by
  cases h with
  | null => exact ⟨_, rfl, rfl, by simp [Delimits], rfl⟩
  | bool b => cases b <;> exact ⟨_, rfl, rfl, by simp [Delimits], rfl⟩
  | number h => exact h.exists_start
  | string h =>
    obtain ⟨h⟩ := h
    exact ⟨_, rfl, rfl, by simp [Delimits], rfl⟩
  | array h => exact ⟨_, h.head?, rfl, by simp [Delimits], rfl⟩
  | object h => exact ⟨_, h.head?, rfl, by simp [Delimits], rfl⟩

theorem IsValue.opens (h : IsValue text v) : Opens text := by
  obtain ⟨c, hc, hs, hd, -⟩ := h.exists_start
  obtain ⟨tail, rfl⟩ := List.head?_eq_some_iff.1 hc
  exact ⟨c, tail, rfl, hs, hd⟩

theorem IsValue.kind_eq (h : IsValue text v) (h' : IsValue text' v')
    (he : text ++ rest = text' ++ rest') : v.kind = v'.kind := by
  obtain ⟨c, hc, -, -, hk⟩ := h.exists_start
  obtain ⟨c', hc', -, -, hk'⟩ := h'.exists_start
  obtain ⟨tail, rfl⟩ := List.head?_eq_some_iff.1 hc
  obtain ⟨tail', rfl⟩ := List.head?_eq_some_iff.1 hc'
  obtain ⟨rfl, -⟩ := List.cons.inj he
  exact hk.symm.trans hk'

/-- The values that a value is made of. -/
def inner : Json → List Json
  | array elements => elements
  | object members => members.map Prod.snd
  | _ => []

theorem sizeOf_lt_of_mem_inner (h : v ∈ v'.inner) : sizeOf v < sizeOf v' := by
  cases v' with
  | array elements =>
    have hlt : sizeOf v < sizeOf elements := List.sizeOf_lt_of_mem h
    simp only [array.sizeOf_spec]
    omega
  | object members =>
    obtain ⟨⟨name, v⟩, hm, rfl⟩ := List.mem_map.1 h
    have hlt : sizeOf (name, v) < sizeOf members := List.sizeOf_lt_of_mem hm
    simp only [Prod.mk.sizeOf_spec] at hlt
    simp only [object.sizeOf_spec]
    omega
  | _ => simp [inner] at h

theorem inner_induction {motive : Json → Prop} (h : ∀ v, (∀ u ∈ v.inner, motive u) → motive v)
    (v : Json) : motive v :=
  h v fun u _ => inner_induction h u
termination_by sizeOf v
decreasing_by exact sizeOf_lt_of_mem_inner ‹_›

theorem determined_value (v : Json) : Determined (Json.inNumber · = false) IsValue v := by
  induction v using inner_induction with
  | h v ih =>
    intro _ _ rest rest' v' h h' hd hd' he
    have hk := h.kind_eq h' he
    cases h with
    | null =>
      cases h' with
      | null => exact ⟨rfl, rfl⟩
      | _ => cases hk
    | bool b =>
      cases h' with
      | bool b' => cases b <;> cases b' <;> simp_all [boolText]
      | _ => cases hk
    | number hn =>
      cases h' with
      | number hn' =>
        obtain ⟨rfl, -⟩ := run_unique hn.inNumber hn'.inNumber hd hd' he
        exact ⟨rfl, rfl⟩
      | _ => cases hk
    | string hs =>
      cases h' with
      | string hs' =>
        obtain ⟨rfl, rfl⟩ := determined_string _ hs hs' hd hd' he
        exact ⟨rfl, rfl⟩
      | _ => cases hk
    | array hb =>
      cases h' with
      | array hb' =>
        obtain ⟨rfl, rfl⟩ := determined_bracketed (.inr (.inr (.inl rfl))) (by decide)
          (Padded.leads IsValue.opens) (fun u hu => determined_padded IsValue.opens (ih u hu))
          hb hb' hd hd' he
        exact ⟨rfl, rfl⟩
      | _ => cases hk
    | object hb =>
      cases h' with
      | object hb' =>
        obtain ⟨rfl, rfl⟩ := determined_bracketed (.inr (.inr (.inr rfl))) (by decide)
          IsMember.leads (fun m hm => determined_member (determined_padded IsValue.opens
            (ih m.2 (List.mem_map_of_mem hm)))) hb hb' hd hd' he
        exact ⟨rfl, rfl⟩
      | _ => cases hk

theorem IsText.unique (h : IsText text v) (h' : IsText text v') : v = v' :=
  (determined_padded IsValue.opens (determined_value v) h h' Next.nil Next.nil rfl).2

end Json

end FilterQuery
