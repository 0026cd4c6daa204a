import Checkpointing.Proofs.Json.Passing

/-!
# The grammar of JSON text

What JSON text is, apart from how it is read: strings and their escapes, numbers, and the values that
brackets hold between commas and blanks. Every JSON value is passed over.
-/

namespace Checkpointing.Json
set_option autoImplicit false

/-! ## Strings -/

/-- A character that stands for itself in a string. -/
def IsPlain (c : Char) : Prop := c ≠ '"' ∧ c ≠ '\\' ∧ 0x20 ≤ c.toNat

inductive Hex : List Char → Nat → Prop where
  | digits {a b c d : Char} {i j k l : Nat} (ha : hexDigit? a = some i) (hb : hexDigit? b = some j)
      (hc : hexDigit? c = some k) (hd : hexDigit? d = some l) :
      Hex [a, b, c, d] (((i * 16 + j) * 16 + k) * 16 + l)

/-- What may stand between quotes. Surrogates need no partner. -/
inductive IsContents : List Char → Prop where
  | nil : IsContents []
  | plain {c : Char} {cs : List Char} (hc : IsPlain c) (hcs : IsContents cs) : IsContents (c :: cs)
  | escape {e : Char} {cs : List Char} (he : (escape? e).isSome) (hcs : IsContents cs) :
      IsContents ('\\' :: e :: cs)
  | unicode {ds cs : List Char} {n : Nat} (hn : Hex ds n) (hcs : IsContents cs) :
      IsContents ('\\' :: 'u' :: (ds ++ cs))

inductive Spells : List Char → List Char → Prop where
  | nil : Spells [] []
  | plain {c : Char} {cs s : List Char} (hc : IsPlain c) (hcs : Spells cs s) :
      Spells (c :: cs) (c :: s)
  | escape {e c : Char} {cs s : List Char} (he : escape? e = some c) (hcs : Spells cs s) :
      Spells ('\\' :: e :: cs) (c :: s)
  | unicode {ds cs s : List Char} {n : Nat} (hn : Hex ds n) (hhigh : isHighSurrogate n = false)
      (hlow : isLowSurrogate n = false) (hcs : Spells cs s) :
      Spells ('\\' :: 'u' :: (ds ++ cs)) (Char.ofNat n :: s)
  | pair {ds es cs s : List Char} {high low : Nat} (hds : Hex ds high)
      (hhigh : isHighSurrogate high = true) (hes : Hex es low) (hlow : isLowSurrogate low = true)
      (hcs : Spells cs s) :
      Spells ('\\' :: 'u' :: (ds ++ '\\' :: 'u' :: (es ++ cs)))
        (Char.ofNat (0x10000 + (high - 0xD800) * 0x400 + (low - 0xDC00)) :: s)

theorem spells_self {cs : List Char} (h : ∀ c ∈ cs, IsPlain c) : Spells cs cs := by
  induction cs with
  | nil => exact .nil
  | cons c cs ih => exact .plain (h c List.mem_cons_self) (ih fun d hd => h d (List.mem_cons_of_mem c hd))

theorem Spells.isContents {cs s : List Char} (h : Spells cs s) : IsContents cs := by
  induction h with
  | nil => exact .nil
  | plain hc _ ih => exact .plain hc ih
  | escape he _ ih => exact .escape (by rw [he]; rfl) ih
  | unicode hn _ _ _ ih => exact .unicode hn ih
  | pair hds _ hes _ _ ih => exact .unicode hds (.unicode hes ih)

theorem isShort_of_hex {ds : List Char} {n : Nat} (h : Hex ds n) (cs : List Char) :
    isShort (ds ++ cs) = false := by
  cases h with
  | @digits a b c d =>
    have ha := a.utf8Size_pos
    have hb := b.utf8Size_pos
    have hc := c.utf8Size_pos
    have hd := d.utf8Size_pos
    simp [isShort]
    omega

theorem escape?_u : escape? 'u' = none := rfl

theorem skipString_contents {cs : List Char} (h : IsContents cs) (rest : List Char) :
    skipString .plain (cs ++ '"' :: rest) = .ok rest := by
  induction h with
  | nil => simp [skipString]
  | plain hc _ ih =>
    obtain ⟨hquote, hslash, hcontrol⟩ := hc
    simp [skipString, hquote, hslash, Nat.not_lt.mpr hcontrol, ih]
  | @escape e cs he _ ih =>
    have hu : e ≠ 'u' := fun h => by simp [h, escape?_u] at he
    simp [skipString, hu, he, ih]
  | @unicode ds cs n hn _ ih =>
    have hlong := isShort_of_hex hn (cs ++ '"' :: rest)
    cases hn with
    | digits ha hb hc hd => simp_all [skipString]

theorem stringFrom_hex {ds : List Char} {n : Nat} (h : Hex ds n) {high : Option Nat} {next : Place}
    {made : Option Char} (hnext : afterHex n high = .ok (next, made)) (read cs : List Char) :
    stringFrom (.hex 4 0 high) read (ds ++ cs) = stringFrom next (made.toList ++ read) cs := by
  cases h with
  | digits ha hb hc hd =>
    cases made <;> simp [stringFrom, ha, hb, hc, hd, hnext]

theorem stringFrom_spells {cs s : List Char} (h : Spells cs s) (read rest : List Char) :
    stringFrom .plain read (cs ++ '"' :: rest) =
      .ok (String.ofList (read.reverse ++ s), rest) := by
  induction h generalizing read with
  | nil => simp [stringFrom]
  | plain hc _ ih =>
    obtain ⟨hquote, hslash, hcontrol⟩ := hc
    simp [stringFrom, hquote, hslash, Nat.not_lt.mpr hcontrol, ih]
  | @escape e c cs s he _ ih =>
    have hu : e ≠ 'u' := fun h => by simp [h, escape?_u] at he
    simp [stringFrom, hu, he, ih]
  | @unicode ds cs s n hn hhigh hlow _ ih =>
    have hlong := isShort_of_hex hn (cs ++ '"' :: rest)
    have hnext : afterHex n none = .ok (.plain, some (Char.ofNat n)) := by simp [afterHex, hhigh, hlow]
    have hhex := stringFrom_hex hn hnext read (cs ++ '"' :: rest)
    simp [stringFrom, hlong, hhex, ih]
  | @pair ds es cs s high low hds hhigh hes hlow _ ih =>
    have hlong₁ := isShort_of_hex hds ('\\' :: 'u' :: (es ++ (cs ++ '"' :: rest)))
    have hlong₂ := isShort_of_hex hes (cs ++ '"' :: rest)
    have hnotlow : isLowSurrogate high = false := by
      simp [isHighSurrogate, isLowSurrogate] at hhigh ⊢
      omega
    have hnext₁ : afterHex high none = .ok (.pairBackslash high, none) := by
      simp [afterHex, hhigh, hnotlow]
    have hnext₂ : afterHex low (some high) =
        .ok (.plain, some (Char.ofNat (0x10000 + (high - 0xD800) * 0x400 + (low - 0xDC00)))) := by
      simp [afterHex, hlow]
    have hhex₁ := stringFrom_hex hds hnext₁ read ('\\' :: 'u' :: (es ++ (cs ++ '"' :: rest)))
    have hhex₂ := stringFrom_hex hes hnext₂ read (cs ++ '"' :: rest)
    simp [stringFrom, hlong₁, hlong₂, hhex₁, hhex₂, ih]

theorem stringFrom_quoted {contents : List Char} {s : String} (h : Spells contents s.toList)
    (rest : List Char) : stringFrom .plain [] (contents ++ '"' :: rest) = .ok (s, rest) := by
  rw [stringFrom_spells h, List.reverse_nil, List.nil_append, String.ofList_toList]

theorem hexDigit?_digitChar : ∀ d < 16, hexDigit? (Nat.digitChar d) = some d := by decide

theorem hex_control {n : Nat} (hn : n < 0x20) :
    Hex ['0', '0', Nat.digitChar (n / 16), Nat.digitChar (n % 16)] n := by
  have hzero : hexDigit? '0' = some 0 := by decide
  have hhex := Hex.digits hzero hzero (hexDigit?_digitChar (n / 16) (by omega))
    (hexDigit?_digitChar (n % 16) (by omega))
  have hval : ((0 * 16 + 0) * 16 + n / 16) * 16 + n % 16 = n := by omega
  rwa [hval] at hhex

theorem spells_escapedChar (c : Char) {cs s : List Char} (h : Spells cs s) :
    Spells (escapedChar c ++ cs) (c :: s) := by
  unfold escapedChar
  by_cases hmark : c = '"' ∨ c = '\\'
  · rw [if_pos hmark]
    rcases hmark with rfl | rfl <;> exact .escape rfl h
  rw [if_neg hmark]
  by_cases hb : c = '\x08'
  · subst hb; exact .escape rfl h
  by_cases ht : c = '\t'
  · subst ht; exact .escape rfl h
  by_cases hn : c = '\n'
  · subst hn; exact .escape rfl h
  by_cases hf : c = '\x0c'
  · subst hf; exact .escape rfl h
  by_cases hr : c = '\r'
  · subst hr; exact .escape rfl h
  rw [if_neg hb, if_neg ht, if_neg hn, if_neg hf, if_neg hr]
  obtain ⟨hquote, hslash⟩ := not_or.mp hmark
  by_cases hcontrol : c.toNat < 0x20
  · rw [if_pos hcontrol]
    have hspells := Spells.unicode (hex_control hcontrol)
      (by simp [isHighSurrogate]; omega) (by simp [isLowSurrogate]; omega) h
    rwa [Char.ofNat_toNat] at hspells
  · rw [if_neg hcontrol]
    exact .plain ⟨hquote, hslash, Nat.le_of_not_lt hcontrol⟩ h

theorem spells_flatMap (s : List Char) : Spells (s.flatMap escapedChar) s := by
  induction s with
  | nil => exact .nil
  | cons c s ih => exact spells_escapedChar c ih

/-! ## Numbers -/

def IsDigits (ds : List Char) : Prop := ds ≠ [] ∧ ∀ c ∈ ds, isDigit c = true

/-- Whole digits. Only zero starts with a zero. -/
def IsWholePart (ds : List Char) : Prop := IsDigits ds ∧ (ds.head? = some '0' → ds = ['0'])

def IsFraction (cs : List Char) : Prop := cs = [] ∨ ∃ ds, IsDigits ds ∧ cs = '.' :: ds

def IsExponent (cs : List Char) : Prop :=
  cs = [] ∨ ∃ e sign ds, (e = 'e' ∨ e = 'E') ∧ (sign = [] ∨ sign = ['+'] ∨ sign = ['-']) ∧
    IsDigits ds ∧ cs = e :: (sign ++ ds)

def IsMagnitude (cs : List Char) : Prop :=
  ∃ whole fraction exponent, IsWholePart whole ∧ IsFraction fraction ∧ IsExponent exponent ∧
    cs = whole ++ (fraction ++ exponent)

def EndsNumber (rest : List Char) : Prop :=
  ∀ c ∈ rest.head?, isDigit c = false ∧ c ≠ '.' ∧ c ≠ 'e' ∧ c ≠ 'E'

theorem IsDigits.exists_cons {ds : List Char} (h : IsDigits ds) :
    ∃ c cs, ds = c :: cs ∧ isDigit c = true := by
  obtain ⟨c, cs, rfl⟩ := List.exists_cons_of_ne_nil h.1
  exact ⟨c, cs, rfl, h.2 c List.mem_cons_self⟩

theorem IsDigits.startsWithDigit {ds : List Char} (h : IsDigits ds) (rest : List Char) :
    startsWithDigit (ds ++ rest) = true := by
  obtain ⟨c, cs, rfl, hc⟩ := h.exists_cons
  simp [Json.startsWithDigit, hc]

theorem IsDigits.dropWhile {ds rest : List Char} (h : IsDigits ds)
    (hrest : Json.startsWithDigit rest = false) : (ds ++ rest).dropWhile isDigit = rest := by
  rw [List.dropWhile_append_of_pos h.2]
  cases rest with
  | nil => rfl
  | cons c cs => exact List.dropWhile_cons_of_neg (by simpa [Json.startsWithDigit] using hrest)

theorem EndsNumber.startsWithDigit {rest : List Char} (h : EndsNumber rest) :
    startsWithDigit rest = false := by
  cases rest with
  | nil => rfl
  | cons c cs => simpa [Json.startsWithDigit] using (h c rfl).1

theorem skipExponent_digits {sign ds rest : List Char}
    (hsign : sign = [] ∨ sign = ['+'] ∨ sign = ['-']) (hds : IsDigits ds)
    (hrest : startsWithDigit rest = false) : skipExponent (sign ++ (ds ++ rest)) = .ok rest := by
  have hdrop := hds.dropWhile hrest
  have hstarts := hds.startsWithDigit rest
  rcases hsign with rfl | rfl | rfl
  · obtain ⟨c, cs, rfl, hc⟩ := hds.exists_cons
    rw [List.nil_append]
    unfold skipExponent
    split
    · rename_i heq
      exact absurd hc ((List.cons.inj heq).1 ▸ by decide)
    · rename_i heq
      exact absurd hc ((List.cons.inj heq).1 ▸ by decide)
    · dsimp only
      rw [if_pos hstarts, hdrop]
  all_goals
    change (if startsWithDigit (ds ++ rest) then Except.ok ((ds ++ rest).dropWhile isDigit) else _) = _
    rw [if_pos hstarts, hdrop]

theorem skipAfterDigits_exponent {cs rest : List Char} (h : IsExponent cs) (hrest : EndsNumber rest) :
    skipAfterDigits (cs ++ rest) = .ok rest := by
  rcases h with rfl | ⟨e, sign, ds, he, hsign, hds, rfl⟩
  · rw [List.nil_append]
    unfold skipAfterDigits
    split
    · exact absurd rfl (hrest _ rfl).2.2.1
    · exact absurd rfl (hrest _ rfl).2.2.2
    · rfl
  · have hskip := skipExponent_digits hsign hds hrest.startsWithDigit
    rcases he with rfl | rfl <;> simpa [skipAfterDigits] using hskip

/-- An exponent, or what follows without one, starts with neither a digit nor a point. -/
theorem head_exponent {cs rest : List Char} (h : IsExponent cs) (hrest : EndsNumber rest) :
    ∀ c ∈ (cs ++ rest).head?, isDigit c = false ∧ c ≠ '.' := by
  rcases h with rfl | ⟨e, sign, ds, he, _, _, rfl⟩
  · exact fun c hc => ⟨(hrest c hc).1, (hrest c hc).2.1⟩
  · rintro c hc
    obtain rfl := Option.some.inj hc
    rcases he with rfl | rfl <;> decide

theorem startsWithDigit_eq_false {cs : List Char} (h : ∀ c ∈ cs.head?, isDigit c = false) :
    startsWithDigit cs = false := by
  cases cs with
  | nil => rfl
  | cons c cs => simpa [startsWithDigit] using h c rfl

theorem skipAfterWhole_fraction {fraction exponent rest : List Char} (hf : IsFraction fraction)
    (he : IsExponent exponent) (hrest : EndsNumber rest) :
    skipAfterWhole (fraction ++ (exponent ++ rest)) = .ok rest := by
  have hskip := skipAfterDigits_exponent he hrest
  have hhead := head_exponent he hrest
  rcases hf with rfl | ⟨ds, hds, rfl⟩
  · rw [List.nil_append]
    unfold skipAfterWhole
    split
    · rename_i heq
      exact absurd rfl (hhead '.' (by rw [heq]; rfl)).2
    · exact hskip
  · have hnodigit := startsWithDigit_eq_false fun c hc => (hhead c hc).1
    rw [List.cons_append, skipAfterWhole, if_pos (hds.startsWithDigit _), hds.dropWhile hnodigit]
    exact hskip

theorem startsWithDigit_fraction {fraction exponent rest : List Char} (hf : IsFraction fraction)
    (he : IsExponent exponent) (hrest : EndsNumber rest) :
    startsWithDigit (fraction ++ (exponent ++ rest)) = false := by
  rcases hf with rfl | ⟨ds, _, rfl⟩
  · exact startsWithDigit_eq_false fun c hc => (head_exponent he hrest c hc).1
  · rfl

theorem skipMagnitude_magnitude {cs rest : List Char} (h : IsMagnitude cs) (hrest : EndsNumber rest) :
    skipMagnitude (cs ++ rest) = .ok rest := by
  obtain ⟨whole, fraction, exponent, ⟨hds, hzero⟩, hf, he, rfl⟩ := h
  have hskip := skipAfterWhole_fraction hf he hrest
  have hnodigit := startsWithDigit_fraction hf he hrest
  have hdrop := hds.dropWhile hnodigit
  have hstarts := hds.startsWithDigit (fraction ++ (exponent ++ rest))
  rw [List.append_assoc, List.append_assoc]
  unfold skipMagnitude
  split
  · rename_i cs heq
    obtain ⟨c, ds, rfl, _⟩ := hds.exists_cons
    obtain ⟨rfl, htail⟩ := List.cons.inj heq
    obtain rfl : ds = [] := (List.cons.inj (hzero rfl)).2
    obtain rfl : _ = cs := htail
    rw [if_neg (by simpa using hnodigit)]
    exact hskip
  · rw [if_pos hstarts, hdrop]
    exact hskip

/-! ## Values -/

inductive IsLeaf : List Char → Prop where
  | null : IsLeaf "null".toList
  | false : IsLeaf "false".toList
  | true : IsLeaf "true".toList
  | string {cs : List Char} (hcs : IsContents cs) : IsLeaf ('"' :: (cs ++ ['"']))
  | number {cs : List Char} (hcs : IsMagnitude cs) : IsLeaf cs
  | negative {cs : List Char} (hcs : IsMagnitude cs) : IsLeaf ('-' :: cs)

section Layout
variable {ν : Type}

/-- What follows a value inside a bracket: the values that are left with what goes before each of them,
and blanks where they may stand. -/
inductive Following (Head : ν → List Char → Prop) : List (ν × List Char) → List Char → Prop where
  | done {blanks : List Char} (hb : Blank blanks) : Following Head [] blanks
  | more {blanks blanks' head blanks'' value cs : List Char} {n : ν} {parts : List (ν × List Char)}
      (hb : Blank blanks) (hb' : Blank blanks') (hhead : Head n head) (hb'' : Blank blanks'')
      (rest : Following Head parts cs) : Following Head ((n, value) :: parts)
        (blanks ++ ',' :: (blanks' ++ (head ++ (blanks'' ++ (value ++ cs)))))

inductive Laid (Head : ν → List Char → Prop) : List (ν × List Char) → List Char → Prop where
  | none {blanks : List Char} (hb : Blank blanks) : Laid Head [] blanks
  | some {blanks head blanks' value cs : List Char} {n : ν} {parts : List (ν × List Char)}
      (hb : Blank blanks) (hhead : Head n head) (hb' : Blank blanks')
      (rest : Following Head parts cs) : Laid Head ((n, value) :: parts)
        (blanks ++ (head ++ (blanks' ++ (value ++ cs))))

end Layout

def Nameless (_ : Unit) (head : List Char) : Prop := head = []

def Quoted (contents head : List Char) : Prop :=
  IsContents contents ∧
    ∃ blanks, Blank blanks ∧ head = '"' :: (contents ++ '"' :: (blanks ++ [':']))

inductive IsJson : List Char → Prop where
  | leaf {cs : List Char} (hcs : IsLeaf cs) : IsJson cs
  | sequence {items : List (Unit × List Char)} {cs : List Char} (laid : Laid Nameless items cs)
      (values : ∀ i ∈ items, IsJson i.2) : IsJson ('[' :: (cs ++ [']']))
  | map {members : List (List Char × List Char)} {cs : List Char} (laid : Laid Quoted members cs)
      (values : ∀ m ∈ members, IsJson m.2) : IsJson ('\x7b' :: (cs ++ ['\x7d']))

/-! ## Every value is passed over -/

section Heads
variable {blanks blanks' cs tail : List Char} {c : Char}

theorem head?_blanks (h : Blank blanks) : ∀ x ∈ (blanks ++ c :: cs).head?, x = c ∨ isSpace x = true := by
  intro x hx
  cases blanks with
  | nil => exact Or.inl (Option.some.inj hx).symm
  | cons b blanks => exact Or.inr (Option.some.inj hx ▸ h b List.mem_cons_self)

/-- After a value come blanks, a comma or the end of the bracket. -/
theorem Following.head? {ν : Type} {Head : ν → List Char → Prop} {parts : List (ν × List Char)}
    (h : Following Head parts cs) (tail : List Char) :
    ∀ x ∈ (cs ++ c :: tail).head?, x = c ∨ x = ',' ∨ isSpace x = true := by
  cases h with
  | done hb => exact fun x hx => (head?_blanks hb x hx).imp id Or.inr
  | more hb =>
    rw [List.append_assoc, List.cons_append]
    exact fun x hx => Or.inr (head?_blanks hb x hx)

theorem Following.endsNumber {ν : Type} {Head : ν → List Char → Prop}
    {parts : List (ν × List Char)} (h : Following Head parts cs) (frame : Frame) (tail : List Char) :
    EndsNumber (cs ++ frame.closing :: tail) := by
  intro x hx
  rcases h.head? tail x hx with rfl | rfl | hspace
  · cases frame <;> decide
  · decide
  · simp only [isSpace, Bool.or_eq_true, beq_iff_eq] at hspace
    rcases hspace with ((rfl | rfl) | rfl) | rfl <;> decide

theorem isSpace_of_digit (h : isDigit c = true) : isSpace c = false := by
  obtain ⟨d, hd⟩ := Option.isSome_iff_exists.mp h
  exact isSpace_of_isDigit (Numeral.digit?_eq_some_iff.mp hd).1

end Heads

/-- A text starts as a value does, and not with the end of a bracket. -/
def StartsValue (cs : List Char) : Prop :=
  ∃ c tail, cs = c :: tail ∧ isSpace c = false ∧ ∀ frame : Frame, c ≠ frame.closing

/-- A text is passed over in `k` steps where a value may end. -/
structure Passed (k : Nat) (text : List Char) : Prop where
  starts : StartsValue text
  few : k ≤ 2 * text.length
  skips : ∀ rest, EndsNumber rest → Skips k (text ++ rest) rest

theorem IsMagnitude.exists_cons {cs : List Char} (h : IsMagnitude cs) :
    ∃ c tail, cs = c :: tail ∧ isDigit c = true := by
  obtain ⟨whole, fraction, exponent, ⟨hds, _⟩, _, _, rfl⟩ := h
  obtain ⟨c, ds, rfl, hc⟩ := hds.exists_cons
  exact ⟨c, _, rfl, hc⟩

theorem startsValue_of_digit {c : Char} {tail : List Char} (h : isDigit c = true) :
    StartsValue (c :: tail) := by
  refine ⟨c, tail, rfl, isSpace_of_digit h, ?_⟩
  rintro frame rfl
  cases frame <;> exact absurd h (by decide)

theorem IsLeaf.starts {cs : List Char} (h : IsLeaf cs) : StartsValue cs := by
  cases h with
  | null => exact ⟨'n', _, rfl, by decide, by rintro (_ | _) <;> decide⟩
  | false => exact ⟨'f', _, rfl, by decide, by rintro (_ | _) <;> decide⟩
  | true => exact ⟨'t', _, rfl, by decide, by rintro (_ | _) <;> decide⟩
  | string hcs => exact ⟨'"', _, rfl, by decide, by rintro (_ | _) <;> decide⟩
  | number hcs =>
    obtain ⟨c, tail, rfl, hc⟩ := hcs.exists_cons
    exact startsValue_of_digit hc
  | negative hcs => exact ⟨'-', _, rfl, by decide, by rintro (_ | _) <;> decide⟩

theorem skipLeaf_digit {c : Char} {cs : List Char} (h : isDigit c = true) :
    skipLeaf (c :: cs) = skipMagnitude (c :: cs) := by
  rw [skipLeaf, if_pos h]
  all_goals
    rintro rfl
    exact absurd h (by decide)

theorem IsLeaf.skipLeaf {cs rest : List Char} (h : IsLeaf cs) (hrest : EndsNumber rest) :
    skipLeaf (cs ++ rest) = .ok rest := by
  cases h with
  | null => exact literal_append _ rest
  | false => exact literal_append _ rest
  | true => exact literal_append _ rest
  | string hcs =>
    rw [List.cons_append, List.append_assoc]
    exact skipString_contents hcs rest
  | number hcs =>
    have hskip := skipMagnitude_magnitude hcs hrest
    obtain ⟨c, tail, rfl, hc⟩ := hcs.exists_cons
    exact (skipLeaf_digit hc).trans hskip
  | negative hcs => exact skipMagnitude_magnitude hcs hrest

theorem IsLeaf.passed {cs : List Char} (h : IsLeaf cs) : Passed 1 cs where
  starts := h.starts
  few := by
    obtain ⟨c, tail, rfl, _⟩ := h.starts
    simp only [List.length_cons]
    omega
  skips := by
    intro rest hrest
    apply skips_leaf
    obtain ⟨c, tail, rfl, hspace, _⟩ := h.starts
    rw [List.cons_append, ← List.nil_append (c :: _), skipSpace_cons blank_nil hspace]
    exact h.skipLeaf hrest

/-- What goes before a value is passed over, after the bracket and after a comma. -/
structure HeadPassed {ν : Type} (frame : Frame) (Head : ν → List Char → Prop) : Prop where
  first : ∀ {n head blanks} tail, Head n head → StartsValue (skipSpace tail) → Blank blanks →
    ∃ cs, Leads frame true (blanks ++ (head ++ tail)) cs ∧ skipSpace cs = skipSpace tail
  more : ∀ {n head blanks blanks'} tail, Head n head → Blank blanks → Blank blanks' →
    ∃ cs, Leads frame false (blanks ++ ',' :: (blanks' ++ (head ++ tail))) cs ∧
      skipSpace cs = skipSpace tail

theorem headPassed_nameless : HeadPassed .sequence Nameless where
  first := by
    rintro _ head blanks tail rfl ⟨c, cs, htail, _, hc⟩ hblanks
    refine ⟨skipSpace tail, ⟨c, cs, ?_, hc .sequence, ?_⟩, skipSpace_skipSpace tail⟩
    · rw [skipSpace_append hblanks, List.nil_append, htail]
    · rw [if_pos rfl, htail]
      rfl
  more := by
    rintro _ head blanks blanks' tail rfl hblanks hblanks'
    have hcomma := @skipSpace_cons blanks (blanks' ++ tail) ',' hblanks (by decide)
    exact ⟨blanks' ++ tail, ⟨',', _, hcomma, by decide, rfl, rfl⟩, skipSpace_append hblanks'⟩

theorem readColon_append {blanks : List Char} (h : Blank blanks) (cs : List Char) :
    readColon (blanks ++ ':' :: cs) = .ok cs := by
  rw [readColon, skipSpace_cons h (by decide)]
  rfl

theorem skipName_quoted {contents head blanks : List Char} (h : Quoted contents head)
    (hblanks : Blank blanks) (tail : List Char) : skipName (blanks ++ (head ++ tail)) = .ok tail := by
  obtain ⟨hcontents, blanks', hblanks', rfl⟩ := h
  have hstring := skipString_contents hcontents (blanks' ++ ':' :: tail)
  rw [skipName, List.cons_append, skipSpace_cons hblanks (by decide)]
  simp only [List.append_assoc, List.cons_append, List.nil_append]
  rw [hstring, Outcome.ok_bind, readColon_append hblanks']

theorem headPassed_quoted : HeadPassed .map Quoted where
  first := by
    intro n head blanks tail hhead _ hblanks
    have hname := skipName_quoted hhead blank_nil tail
    obtain ⟨_, blanks', _, rfl⟩ := hhead
    refine ⟨tail, ⟨'"', _, skipSpace_cons hblanks (by decide), by decide, ?_⟩, rfl⟩
    rw [if_pos rfl]
    exact hname
  more := by
    intro n head blanks blanks' tail hhead hblanks hblanks'
    have hcomma := @skipSpace_cons blanks (blanks' ++ (head ++ tail)) ',' hblanks (by decide)
    exact ⟨tail, ⟨',', _, hcomma, by decide, rfl, skipName_quoted hhead hblanks' tail⟩, rfl⟩

section Brackets
variable {ν : Type} {Head : ν → List Char → Prop} {parts : List (ν × List Char)} {cs : List Char}
  {frame : Frame}

theorem skips_value {k : Nat} {value blanks rest cs : List Char} (h : Passed k value)
    (hrest : EndsNumber rest) (hblanks : Blank blanks)
    (hcs : skipSpace cs = skipSpace (blanks ++ (value ++ rest))) : Skips k cs rest := by
  rw [← skips_skipSpace_iff, hcs, skipSpace_append hblanks, skips_skipSpace_iff]
  exact h.skips rest hrest

theorem Following.inside (hhead : HeadPassed frame Head) (h : Following Head parts cs)
    (hparts : ∀ p ∈ parts, ∃ k, Passed k p.2) : ∃ k, k ≤ 2 * cs.length + 1 ∧
      ∀ tail, Inside k frame false (cs ++ frame.closing :: tail) tail := by
  induction h with
  | @done blanks hb =>
    refine ⟨1, by omega, fun tail => inside_close frame (skipSpace_cons hb ?_)⟩
    cases frame <;> decide
  | @more blanks blanks' head blanks'' value cs n parts hb hb' hn hb'' hrest ih =>
    obtain ⟨k, hk⟩ := hparts _ List.mem_cons_self
    obtain ⟨l, hl, hinside⟩ := ih fun p hp => hparts p (List.mem_cons_of_mem _ hp)
    have hfew : k ≤ 2 * value.length := hk.few
    refine ⟨k + l + 1, ?_, ?_⟩
    · simp only [List.length_append, List.length_cons]
      omega
    · intro tail
      obtain ⟨cs', hlead, hcs'⟩ :=
        hhead.more (blanks'' ++ (value ++ (cs ++ frame.closing :: tail))) hn hb hb'
      have hvalue := skips_value hk (hrest.endsNumber frame tail) hb'' hcs'
      have hpart := inside_part hlead hvalue (hinside tail)
      simpa only [List.append_assoc, List.cons_append] using hpart

theorem Laid.inside (hhead : HeadPassed frame Head) (h : Laid Head parts cs)
    (hparts : ∀ p ∈ parts, ∃ k, Passed k p.2) : ∃ k, k ≤ 2 * cs.length + 2 ∧
      ∀ tail, Inside k frame true (cs ++ frame.closing :: tail) tail := by
  cases h with
  | @none blanks hb =>
    refine ⟨1, by omega, fun tail => inside_close frame (skipSpace_cons hb ?_)⟩
    cases frame <;> decide
  | @some blanks head blanks' value cs n parts hb hn hb' hrest =>
    obtain ⟨k, hk⟩ := hparts _ List.mem_cons_self
    obtain ⟨l, hl, hinside⟩ := hrest.inside hhead fun p hp => hparts p (List.mem_cons_of_mem _ hp)
    have hfew : k ≤ 2 * value.length := hk.few
    refine ⟨k + l + 1, ?_, ?_⟩
    · simp only [List.length_append]
      omega
    · intro tail
      obtain ⟨c, value', hvalue', hspace, hc⟩ := hk.starts
      have hstarts : StartsValue (skipSpace (blanks' ++ (value ++ (cs ++ frame.closing :: tail)))) := by
        refine ⟨c, value' ++ (cs ++ frame.closing :: tail), ?_, hspace, hc⟩
        rw [show value = c :: value' from hvalue', List.cons_append, skipSpace_cons hb' hspace]
      obtain ⟨cs', hlead, hcs'⟩ := hhead.first _ hn hstarts hb
      have hvalue := skips_value hk (hrest.endsNumber frame tail) hb' hcs'
      have hpart := inside_part hlead hvalue (hinside tail)
      simpa only [List.append_assoc, List.cons_append] using hpart

theorem Laid.passed (hhead : HeadPassed frame Head) (h : Laid Head parts cs)
    (hparts : ∀ p ∈ parts, ∃ k, Passed k p.2) :
    ∃ k, Passed k (frame.opening :: (cs ++ [frame.closing])) := by
  obtain ⟨k, hk, hinside⟩ := h.inside hhead hparts
  have hspace : isSpace frame.opening = false := by cases frame <;> decide
  refine ⟨k + 1, ⟨frame.opening, _, rfl, hspace, ?_⟩, ?_, ?_⟩
  · rintro (_ | _) <;> cases frame <;> decide
  · simp only [List.length_cons, List.length_append]
    omega
  · intro rest _
    have hopening := @skipSpace_cons [] (cs ++ frame.closing :: rest) frame.opening blank_nil hspace
    have hskips := skips_bracket frame hopening (hinside rest)
    simpa only [List.append_assoc, List.cons_append, List.nil_append] using hskips

end Brackets

/-- Values are passed over however they are nested. -/
theorem IsJson.passed {cs : List Char} (h : IsJson cs) : ∃ k, Passed k cs := by
  induction h with
  | leaf hcs => exact ⟨1, hcs.passed⟩
  | sequence laid _ ih => exact laid.passed headPassed_nameless ih
  | map laid _ ih => exact laid.passed headPassed_quoted ih

end Checkpointing.Json
