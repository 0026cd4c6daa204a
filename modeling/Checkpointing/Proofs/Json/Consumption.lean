import Checkpointing.Proofs.Json.Members

/-!
# What is read is what is passed over

A reader that wants a value of some kind takes from the text what would be passed over if the value were
not wanted. So it takes a value as a whole, and an object is read in step with its members.
-/

namespace Checkpointing.Json
set_option autoImplicit false

/-- A reader leaves what is left when the value is passed over. -/
def Consumes {α : Type} (read : List Char → Except Error (α × List Char)) : Prop :=
  ∀ cs a rest, read cs = .ok (a, rest) → ∃ k, Skips k cs rest

theorem Consumes.map {α β : Type} {read : List Char → Except Error (α × List Char)}
    (h : Consumes read) (f : α → β) :
    Consumes fun cs => (read cs).map fun (a, rest) => (f a, rest) := by
  intro cs b rest hmap
  obtain ⟨⟨a, rest'⟩, hread, heq⟩ := Outcome.map_eq_ok_iff.mp hmap
  obtain ⟨_, rfl⟩ := Prod.mk.inj heq
  exact h cs a rest' hread

theorem Consumes.plain {δ α : Type} {read : List Char → Except Error (α × List Char)}
    (h : Consumes read) (name : String) (isIn : δ → Bool) (put : δ → α → δ) (draft : δ) :
    Consumes fun cs => ((Field.plain name isIn read put).read draft cs).outcome := h.map (put draft)

/-! ## Numbers -/

namespace Number
variable {negative : Bool} {digits : Nat} {exponent : Int} {n : Int} {cs rest : List Char}

theorem finish_ne_integer : finish negative digits exponent cs ≠ .ok (.integer n, rest) := by
  unfold finish
  split <;> simp

theorem exponentPart_ne_integer :
    exponentPart negative digits exponent cs ≠ .ok (.integer n, rest) := by
  unfold exponentPart
  dsimp only
  split_ifs
  all_goals first | exact finish_ne_integer | simp

theorem afterDigits_ne_integer :
    afterDigits negative digits exponent cs ≠ .ok (.integer n, rest) := by
  unfold afterDigits
  split
  · exact exponentPart_ne_integer
  · exact exponentPart_ne_integer
  · exact finish_ne_integer

theorem fractionPart_ne_integer {exponent : Nat} :
    fractionPart negative digits exponent cs ≠ .ok (.integer n, rest) := by
  unfold fractionPart
  split_ifs
  · simp
  · simp
  · exact afterDigits_ne_integer

theorem skipAfterWhole_of_integer
    (h : afterWhole negative digits cs = .ok (.integer n, rest)) : skipAfterWhole cs = .ok rest := by
  unfold afterWhole at h
  split at h
  · exact absurd h fractionPart_ne_integer
  · exact absurd h exponentPart_ne_integer
  · exact absurd h exponentPart_ne_integer
  · have hrest : cs = rest := by
      split_ifs at h
      · exact (Prod.mk.inj (Except.ok.inj h)).2
      · exact absurd h finish_ne_integer
      · exact (Prod.mk.inj (Except.ok.inj h)).2
    rw [skipAfterWhole, skipAfterDigits, hrest] <;> assumption

theorem skipAfterWhole_of_wholePart (h : wholePart negative digits cs = .ok (.integer n, rest)) :
    skipAfterWhole (cs.dropWhile isDigit) = .ok rest := by
  induction cs generalizing digits with
  | nil => exact skipAfterWhole_of_integer h
  | cons c cs ih =>
    rw [wholePart] at h
    split at h
    · rename_i hc
      rw [List.dropWhile_cons_of_neg (by simp [isDigit, hc])]
      exact skipAfterWhole_of_integer h
    · rename_i d hc
      rw [List.dropWhile_cons_of_pos (by simp [isDigit, hc])]
      split at h
      · exact ih h
      · dsimp only at h
        split at h
        · exact absurd h fractionPart_ne_integer
        · exact absurd h afterDigits_ne_integer

theorem skipMagnitude_of_integer (h : magnitude negative cs = .ok (.integer n, rest)) :
    skipMagnitude cs = .ok rest := by
  unfold magnitude at h
  split at h
  · exact absurd h (by simp)
  · split_ifs at h with hdigit
    rw [skipMagnitude, if_neg hdigit]
    exact skipAfterWhole_of_integer h
  · rename_i c cs hc
    split at h
    · exact absurd h (by simp)
    · rename_i d hd
      have hdigit : isDigit c = true := by simp [isDigit, hd]
      rw [skipMagnitude, if_pos (by simp [startsWithDigit, hdigit]), List.dropWhile_cons_of_pos hdigit]
      · exact skipAfterWhole_of_wholePart h
      · exact fun _ heq => hc (List.cons.inj heq).1

theorem skipLeaf_of_integer {c : Char} (hc : starts c = true)
    (h : read (c :: cs) = .ok (.integer n, rest)) : skipLeaf (c :: cs) = .ok rest := by
  unfold read at h
  split at h
  · rename_i heq
    obtain ⟨rfl, rfl⟩ := List.cons.inj heq
    exact skipMagnitude_of_integer h
  · rename_i hminus
    have hdigit : isDigit c = true := by
      simp only [starts, Bool.or_eq_true, beq_iff_eq] at hc
      exact hc.resolve_left fun h => hminus cs (h ▸ rfl)
    rw [skipLeaf_digit hdigit]
    exact skipMagnitude_of_integer h

end Number

theorem mismatch_ne_ok {α : Type} {wanted : String} {cs : List Char} {a : α} :
    mismatch wanted cs ≠ .ok a := by
  unfold mismatch
  intro h
  obtain ⟨_, _, h⟩ := Outcome.bind_eq_ok_iff.mp h
  exact absurd h (by simp [throw, throwThe, MonadExceptOf.throw])

theorem consumes_integer (range : Range) : Consumes (readInteger range) := by
  intro cs z rest h
  unfold readInteger at h
  split at h
  · exact absurd h (by simp)
  · rename_i c tail heq
    split_ifs at h with hc
    · obtain ⟨⟨number, rest'⟩, hread, h⟩ := Outcome.bind_eq_ok_iff.mp h
      cases number with
      | float x => exact absurd h (by simp [throw, throwThe, MonadExceptOf.throw])
      | integer n =>
        dsimp only at h
        split_ifs at h
        obtain ⟨_, rfl⟩ := Prod.mk.inj (Except.ok.inj h)
        exact ⟨1, skips_leaf (heq ▸ Number.skipLeaf_of_integer hc hread)⟩
    · exact absurd h mismatch_ne_ok

theorem consumes_int64 : Consumes readInt64 := (consumes_integer .int64).map Int64.ofInt

theorem consumes_uint64 : Consumes readUInt64 :=
  (consumes_integer .uint64).map fun z => UInt64.ofNat z.toNat

theorem consumes_uint32 : Consumes readUInt32 :=
  (consumes_integer .uint32).map fun z => UInt32.ofNat z.toNat

theorem consumes_bool : Consumes readBool := by
  intro cs on rest h
  unfold readBool at h
  split at h
  · rename_i tail heq
    obtain ⟨_, hliteral, heq'⟩ := Outcome.map_eq_ok_iff.mp h
    obtain ⟨_, rfl⟩ := Prod.mk.inj heq'
    exact ⟨1, skips_leaf (heq ▸ hliteral)⟩
  · rename_i tail heq
    obtain ⟨_, hliteral, heq'⟩ := Outcome.map_eq_ok_iff.mp h
    obtain ⟨_, rfl⟩ := Prod.mk.inj heq'
    exact ⟨1, skips_leaf (heq ▸ hliteral)⟩
  · exact absurd h mismatch_ne_ok

/-! ## Names -/

/-- Where the passing over of a string stands when its reading stands at a place. -/
def Place.passing : Place → Place
  | .plain | .pairBackslash _ => .plain
  | .escape | .pairLetter _ => .escape
  | .hex left _ _ => .hex left 0 none

theorem passing_of_afterHex {n : Nat} {high : Option Nat} {next : Place} {made : Option Char}
    (h : afterHex n high = .ok (next, made)) : next.passing = .plain := by
  cases high <;> simp only [afterHex] at h <;> split_ifs at h <;>
    obtain ⟨rfl, _⟩ := Prod.mk.inj (Except.ok.inj h) <;> rfl

theorem skipString_of_stringFrom {place : Place} {read cs rest : List Char} {s : String}
    (h : stringFrom place read cs = .ok (s, rest)) : skipString place.passing cs = .ok rest := by
  induction cs generalizing place read with
  | nil => exact absurd h (by simp [stringFrom])
  | cons c cs ih =>
    cases place with
    | plain =>
      simp only [stringFrom] at h
      simp only [Place.passing, skipString]
      split_ifs at h ⊢
      · exact congrArg _ (Prod.mk.inj (Except.ok.inj h)).2
      · exact ih h
      · exact ih h
    | escape =>
      simp only [stringFrom] at h
      simp only [Place.passing, skipString]
      split_ifs at h ⊢ with hu hlong hescape
      · exact ih h
      · split at h
        · exact ih h
        · exact absurd h (by simp)
      · split at h
        · rename_i e he
          exact absurd (by simp [he]) hescape
        · exact absurd h (by simp)
    | hex left value high =>
      simp only [stringFrom] at h
      simp only [Place.passing, skipString]
      split at h
      · exact absurd h (by simp)
      · rename_i d hd
        rw [if_neg (by simp [hd])]
        split_ifs at h ⊢
        · split at h
          · exact absurd h (by simp)
          · rename_i next e hnext
            exact passing_of_afterHex hnext ▸ ih h
          · rename_i next hnext
            exact passing_of_afterHex hnext ▸ ih h
        · exact ih h
    | pairBackslash high =>
      simp only [stringFrom] at h
      split_ifs at h with hc
      subst hc
      simp only [Place.passing, skipString]
      exact ih h
    | pairLetter high =>
      simp only [stringFrom] at h
      split_ifs at h with hc hlong
      subst hc
      simp only [Place.passing, skipString]
      rw [if_pos trivial, if_neg hlong]
      exact ih h

section Names
variable {cs cs' cs'' rest : List Char} {name : String}

theorem exists_of_readName (h : readName cs = .ok (name, cs')) :
    ∃ tail, skipSpace cs = '"' :: tail ∧ skipString .plain tail = .ok cs' := by
  unfold readName at h
  split at h
  · exact absurd h (by simp)
  · rename_i tail heq
    exact ⟨tail, heq, skipString_of_stringFrom h⟩
  · exact absurd h (by simp)

theorem skipName_of_readName (hname : readName cs = .ok (name, cs'))
    (hcolon : readColon cs' = .ok cs'') : skipName cs = .ok cs'' := by
  obtain ⟨tail, heq, hstring⟩ := exists_of_readName hname
  rw [skipName, heq]
  exact Outcome.bind_eq_ok_iff.mpr ⟨cs', hstring, hcolon⟩

theorem leads_of_readName (hname : readName cs = .ok (name, cs'))
    (hcolon : readColon cs' = .ok cs'') : Leads .map true cs cs'' := by
  obtain ⟨tail, heq, _⟩ := exists_of_readName hname
  refine ⟨'"', tail, heq, by decide, ?_⟩
  rw [if_pos rfl, ← heq]
  change skipName (skipSpace cs) = _
  rw [skipName, skipSpace_skipSpace]
  exact skipName_of_readName hname hcolon

theorem leads_of_nextName? {first : Bool} (hname : nextName? first cs = .ok (some (name, cs')))
    (hcolon : readColon cs' = .ok cs'') : Leads .map first cs cs'' := by
  unfold nextName? at hname
  split at hname
  · exact absurd hname (by simp)
  · exact absurd hname (by simp)
  · rename_i c tail hbrace heq
    refine ⟨c, tail, heq, hbrace, ?_⟩
    cases first with
    | true =>
      obtain ⟨_, hread, heq'⟩ := Outcome.map_eq_ok_iff.mp hname
      obtain rfl := Option.some.inj heq'
      exact skipName_of_readName hread hcolon
    | false =>
      rw [if_neg (by simp)] at hname ⊢
      split_ifs at hname with hcomma
      obtain ⟨_, hread, heq'⟩ := Outcome.map_eq_ok_iff.mp hname
      obtain rfl := Option.some.inj heq'
      exact ⟨hcomma, skipName_of_readName hread hcolon⟩

theorem skips_of_readUnit (h : readUnit cs = .ok rest) : Skips 1 cs rest := by
  unfold readUnit at h
  split at h
  · rename_i tail heq
    exact skips_leaf (heq ▸ h)
  · exact absurd h mismatch_ne_ok

end Names

theorem consumes_variant {α : Type} (ofName? : String → Option α) (known : List String) :
    Consumes (readVariant ofName? known) := by
  intro cs a rest h
  unfold readVariant at h
  split at h
  · exact absurd h (by simp)
  · rename_i tail heq
    obtain ⟨⟨name, cs'⟩, hstring, h⟩ := Outcome.bind_eq_ok_iff.mp h
    obtain ⟨a', _, h⟩ := Outcome.bind_eq_ok_iff.mp h
    obtain ⟨_, rfl⟩ := Prod.mk.inj (Except.ok.inj h)
    exact ⟨1, skips_leaf (heq ▸ skipString_of_stringFrom hstring)⟩
  · rename_i tail heq
    obtain ⟨⟨name, cs₁⟩, hname, h⟩ := Outcome.bind_eq_ok_iff.mp h
    obtain ⟨a', _, h⟩ := Outcome.bind_eq_ok_iff.mp h
    obtain ⟨cs₂, hcolon, h⟩ := Outcome.bind_eq_ok_iff.mp h
    obtain ⟨cs₃, hunit, h⟩ := Outcome.bind_eq_ok_iff.mp h
    split at h
    · exact absurd h (by simp [throw, throwThe, MonadExceptOf.throw])
    · rename_i cs₄ hclose
      obtain ⟨_, rfl⟩ := Prod.mk.inj (Except.ok.inj h)
      have hinside := inside_part (leads_of_readName hname hcolon) (skips_of_readUnit hunit)
        (inside_close .map hclose)
      exact ⟨_, skips_bracket .map heq hinside⟩
    · exact absurd h (by simp [throw, throwThe, MonadExceptOf.throw])
  · exact absurd h (by simp)

/-! ## Records -/

theorem rest_of_endItems {cs rest : List Char} (h : endItems cs = .ok rest) :
    skipSpace cs = ']' :: rest := by
  unfold endItems at h
  split at h
  · exact absurd h (by simp)
  · rename_i heq
    rw [heq, Except.ok.inj h]
  · exact absurd h (by simp)

theorem rest_of_endMembers {cs rest : List Char} (h : endMembers cs = .ok rest) :
    skipSpace cs = '\x7d' :: rest := by
  unfold endMembers at h
  split at h
  · exact absurd h (by simp)
  · rename_i heq
    rw [heq, Except.ok.inj h]
  · exact absurd h (by simp)

theorem exists_leads_of_nextItem? {cs cs' : List Char} {first : Bool}
    (h : nextItem? first cs = .ok (some cs')) :
    ∃ cs'', Leads .sequence first cs cs'' ∧ skipSpace cs'' = skipSpace cs' := by
  unfold nextItem? at h
  split at h
  · exact absurd h (by simp)
  · exact absurd h (by simp)
  · rename_i c tail hbracket heq
    split_ifs at h with hfirst hcomma
    · obtain rfl := Option.some.inj (Except.ok.inj h)
      refine ⟨c :: tail, ⟨c, tail, heq, hbracket, ?_⟩, rfl⟩
      rw [if_pos hfirst]
      rfl
    · split at h
      · exact absurd h (by simp)
      · exact absurd h (by simp)
      · obtain rfl := Option.some.inj (Except.ok.inj h)
        refine ⟨tail, ⟨c, tail, heq, hbracket, ?_⟩, (skipSpace_skipSpace tail).symm⟩
        rw [if_neg hfirst]
        exact ⟨by simpa using hcomma, rfl⟩

namespace Shape
variable {δ α : Type} {shape : Shape δ α} {draft d : δ} {cs cs' rest : List Char}

/-- Each member is read as it would be passed over. -/
def Consumes (shape : Shape δ α) : Prop :=
  ∀ field ∈ shape.fields, ∀ draft, Json.Consumes fun cs => (field.read draft cs).outcome

theorem Consumes.readItems (h : shape.Consumes) {fields : List (Field δ)} {index : Nat}
    (hfields : ∀ field ∈ fields, field ∈ shape.fields)
    (hread : (shape.readItems index draft fields cs).outcome = .ok (d, cs'))
    (hend : endItems cs' = .ok rest) : ∃ k, Inside k .sequence (index == 0) cs rest := by
  induction fields generalizing index draft cs with
  | nil =>
    obtain ⟨_, rfl⟩ := Prod.mk.inj (Except.ok.inj hread)
    exact ⟨1, inside_close .sequence (rest_of_endItems hend)⟩
  | cons field fields ih =>
    rw [Shape.readItems, Traced.outcome_bind_eq_ok_iff] at hread
    obtain ⟨item, hitem, hread⟩ := hread
    cases item with
    | some cs₁ =>
      dsimp only at hread
      rw [Traced.outcome_bind_eq_ok_iff] at hread
      obtain ⟨⟨draft', cs₂⟩, hfield, hread⟩ := hread
      obtain ⟨cs₃, hlead, hsame⟩ := exists_leads_of_nextItem? hitem
      obtain ⟨k, hvalue⟩ := h field (hfields field List.mem_cons_self) draft _ _ _ hfield
      obtain ⟨l, hinside⟩ := ih (fun f hf => hfields f (List.mem_cons_of_mem _ hf)) hread
      rw [← skips_skipSpace_iff, ← hsame, skips_skipSpace_iff] at hvalue
      exact ⟨_, inside_part hlead hvalue hinside⟩
    | none =>
      dsimp only at hread
      split at hread
      · exact absurd hread (by simp)
      · obtain ⟨_, rfl⟩ := Prod.mk.inj (Except.ok.inj hread)
        exact ⟨1, inside_close .sequence (rest_of_endItems hend)⟩

theorem Consumes.readMembers (h : shape.Consumes) (hclosed : shape.closed = true) {steps : Nat}
    {first : Bool} (hread : (shape.readMembers steps first draft cs).outcome = .ok (d, cs'))
    (hend : endMembers cs' = .ok rest) : ∃ k, Inside k .map first cs rest := by
  induction steps generalizing first draft cs with
  | zero => exact absurd hread (by simp [Shape.readMembers])
  | succ steps ih =>
    rw [Shape.readMembers, Traced.outcome_bind_eq_ok_iff] at hread
    obtain ⟨next, hnext, hread⟩ := hread
    cases next with
    | none =>
      obtain ⟨_, rfl⟩ := Prod.mk.inj (Except.ok.inj hread)
      exact ⟨1, inside_close .map (rest_of_endMembers hend)⟩
    | some next =>
      obtain ⟨name, cs₁⟩ := next
      dsimp only at hread
      rw [Traced.outcome_bind_eq_ok_iff] at hread
      obtain ⟨⟨draft', cs₂⟩, hmember, hread⟩ := hread
      obtain ⟨l, hinside⟩ := ih hread
      unfold Shape.readMember at hmember
      split at hmember
      · rename_i field hfield
        split at hmember
        · exact absurd hmember (by simp)
        · rw [Traced.outcome_bind_eq_ok_iff] at hmember
          obtain ⟨cs₃, hcolon, hmember⟩ := hmember
          obtain ⟨k, hvalue⟩ := h field (List.mem_of_find?_eq_some hfield) draft _ _ _ hmember
          exact ⟨_, inside_part (leads_of_nextName? hnext hcolon) hvalue hinside⟩
      · rw [if_pos hclosed] at hmember
        exact absurd hmember (by simp)

/-- A record that is read is passed over as the sequence or the object it is. -/
theorem Consumes.read (h : shape.Consumes) (hclosed : shape.closed = true) :
    Json.Consumes fun cs => (shape.read cs).outcome := by
  intro cs a rest hread
  dsimp only at hread
  unfold Shape.read at hread
  split at hread
  · rename_i tail heq
    rw [Traced.outcome_bind_eq_ok_iff] at hread
    obtain ⟨⟨draft, cs'⟩, hitems, hread⟩ := hread
    obtain ⟨k, hinside⟩ := h.readItems (fun _ hf => hf) hitems (close_of_outcome hread).2
    exact ⟨_, skips_bracket .sequence heq hinside⟩
  · rename_i tail heq
    rw [Traced.outcome_bind_eq_ok_iff] at hread
    obtain ⟨⟨draft, cs'⟩, hmembers, hread⟩ := hread
    obtain ⟨k, hinside⟩ := h.readMembers hclosed hmembers (close_of_outcome hread).2
    exact ⟨_, skips_bracket .map heq hinside⟩
  · exact absurd hread mismatch_ne_ok

/-- A member that has been read is in the draft from then on. -/
structure Marks (shape : Shape δ α) : Prop where
  read : ∀ field ∈ shape.fields, ∀ {draft cs d rest},
    (field.read draft cs).outcome = .ok (d, rest) → field.isIn d = true
  keeps : ∀ field ∈ shape.fields, ∀ other ∈ shape.fields, ∀ {draft cs d rest},
    (field.read draft cs).outcome = .ok (d, rest) → other.isIn draft = true → other.isIn d = true

/-- What reading a member comes to: it stops where the value ends, a known member was not in the draft and
is now, and those that were in it still are. -/
structure Advances (shape : Shape δ α) (draft : δ) (name : String) (d : δ) : Prop where
  known : ∀ field, shape.fields.find? (·.name = name) = some field →
    field.isIn draft = false ∧ field.isIn d = true
  kept : ∀ field ∈ shape.fields, field.isIn draft = true → field.isIn d = true

variable {name : String} {value blanks tail : List Char} {members : List (String × List Char)}

theorem Marks.readMember (h : shape.Marks) (hconsumes : shape.Consumes) (hvalue : IsJson value)
    (hblanks : Blank blanks) (hrest : EndsNumber rest)
    (hcolon : readColon cs = .ok (blanks ++ (value ++ rest)))
    (hread : (shape.readMember draft name cs).outcome = .ok (d, cs')) :
    shape.Advances draft name d ∧ cs' = rest := by
  unfold Shape.readMember at hread
  split at hread
  · rename_i field hfield
    have hmem := List.mem_of_find?_eq_some hfield
    split at hread
    · exact absurd hread (by simp)
    · rename_i hnew
      rw [Traced.outcome_bind_of_ok hcolon] at hread
      refine ⟨⟨?_, fun other hother => h.keeps field hmem other hother hread⟩, ?_⟩
      · intro field' hfield'
        obtain rfl := Option.some.inj (hfield.symm.trans hfield')
        exact ⟨by simpa using hnew, h.read field hmem hread⟩
      · obtain ⟨k, hskips⟩ := hconsumes field hmem draft _ _ _ hread
        obtain ⟨l, hpassed⟩ := hvalue.passed
        exact hskips.unique (skips_value hpassed hrest hblanks rfl)
  · rename_i hother
    split at hread
    · exact absurd hread (by simp)
    · rw [Traced.outcome_bind_of_ok hcolon,
        Traced.outcome_bind_of_ok (hvalue.skipValue hblanks hrest)] at hread
      obtain ⟨rfl, rfl⟩ := Prod.mk.inj (Except.ok.inj hread)
      exact ⟨⟨fun field hfield => absurd hfield (by simp [hother]), fun _ _ hin => hin⟩, rfl⟩

/-- Known members stand at most once among those that are left, and not at all if the draft has them. -/
def OnceMore (shape : Shape δ α) (draft : δ) (members : List (String × List Char)) : Prop :=
  ∀ name field, shape.fields.find? (·.name = name) = some field →
    (members.map Prod.fst).count name ≤ 1 ∧
      (field.isIn draft = true → (members.map Prod.fst).count name = 0)

theorem Advances.onceMore (h : shape.Advances draft name d) (hmembers : shape.OnceMore d members) :
    shape.OnceMore draft ((name, value) :: members) := by
  intro other field hfield
  obtain ⟨hcount, hzero⟩ := hmembers other field hfield
  rw [List.map_cons]
  by_cases heq : name = other
  · subst heq
    obtain ⟨hnew, hin⟩ := h.known field hfield
    rw [List.count_cons_self, hzero hin]
    exact ⟨Nat.le_refl 1, fun hold => absurd hold (by simp [hnew])⟩
  · rw [List.count_cons_of_ne heq]
    exact ⟨hcount, fun hold => hzero (h.kept field (List.mem_of_find?_eq_some hfield) hold)⟩

/-- Reading goes on after a member where the member ends. -/
theorem Marks.exists_advances (h : shape.Marks) (hconsumes : shape.Consumes) {steps : Nat}
    {first : Bool} {named : List Char} (hvalue : IsJson value) (hblanks : Blank blanks)
    (hrest : EndsNumber rest) (hname : nextName? first cs = .ok (some (name, named)))
    (hcolon : readColon named = .ok (blanks ++ (value ++ rest)))
    (hread : (shape.readMembers (steps + 1) first draft cs).outcome = .ok (d, cs')) :
    ∃ draft', shape.Advances draft name draft' ∧
      (shape.readMembers steps false draft' rest).outcome = .ok (d, cs') := by
  rw [Shape.readMembers, Traced.outcome_bind_of_ok hname] at hread
  obtain ⟨⟨draft', cs₁⟩, hmember, hread⟩ := Traced.outcome_bind_eq_ok_iff.mp hread
  obtain ⟨hadvances, rfl⟩ := h.readMember hconsumes hvalue hblanks hrest hcolon hmember
  exact ⟨draft', hadvances, hread⟩

theorem Marks.onceMore_of_following (h : shape.Marks) (hconsumes : shape.Consumes)
    (hlaid : Following Named members cs) (hvalues : ∀ m ∈ members, IsJson m.2) {steps : Nat}
    (hread : (shape.readMembers steps false draft (cs ++ '\x7d' :: tail)).outcome = .ok (d, cs')) :
    shape.OnceMore draft members := by
  induction hlaid generalizing draft steps with
  | done => exact fun _ _ _ => ⟨Nat.zero_le 1, fun _ => rfl⟩
  | @more blanks blanks' head blanks'' value cs name members hb hb' hhead hb'' hrest ih =>
    cases steps with
    | zero => exact absurd hread (by simp [Shape.readMembers])
    | succ steps =>
      obtain ⟨named, hname, hcolon⟩ :=
        nextName?_comma_named hhead hb hb' (blanks'' ++ (value ++ (cs ++ '\x7d' :: tail)))
      simp only [List.append_assoc, List.cons_append] at hread
      obtain ⟨draft', hadvances, hread⟩ := h.exists_advances hconsumes
        (hvalues _ List.mem_cons_self) hb'' (hrest.endsNumber .map tail) hname hcolon hread
      exact hadvances.onceMore (ih (fun m hm => hvalues m (List.mem_cons_of_mem _ hm)) hread)

theorem Marks.onceMore_of_laid (h : shape.Marks) (hconsumes : shape.Consumes)
    (hlaid : Laid Named members cs) (hvalues : ∀ m ∈ members, IsJson m.2) {steps : Nat}
    (hread : (shape.readMembers (steps + 1) true draft (cs ++ '\x7d' :: tail)).outcome =
      .ok (d, cs')) : shape.OnceMore draft members := by
  cases hlaid with
  | none => exact fun _ _ _ => ⟨Nat.zero_le 1, fun _ => rfl⟩
  | @some blanks head blanks' value cs name members hb hhead hb' hrest =>
    obtain ⟨named, hname, hcolon⟩ :=
      nextName?_named hhead hb (blanks' ++ (value ++ (cs ++ '\x7d' :: tail)))
    simp only [List.append_assoc] at hread
    obtain ⟨draft', hadvances, hread⟩ := h.exists_advances hconsumes
      (hvalues _ List.mem_cons_self) hb' (hrest.endsNumber .map tail) hname hcolon hread
    exact hadvances.onceMore (h.onceMore_of_following hconsumes hrest
      (fun m hm => hvalues m (List.mem_cons_of_mem _ hm)) hread)

theorem Marks.count_le_one (h : shape.Marks) (hconsumes : shape.Consumes) {text : List Char} {a : α}
    (htext : IsBraced members text) (hvalues : ∀ m ∈ members, IsJson m.2) (hblanks : Blank blanks)
    (hread : (shape.read (blanks ++ (text ++ tail))).outcome = .ok (a, rest))
    {field : Field δ} (hfield : shape.fields.find? (·.name = name) = some field) :
    (members.map Prod.fst).count name ≤ 1 := by
  obtain ⟨cs, hlaid, rfl⟩ := htext
  rw [List.cons_append, List.append_assoc, Shape.read, skipSpace_cons hblanks (by decide)] at hread
  obtain ⟨⟨draft, cs'⟩, hread, _⟩ := Traced.outcome_bind_eq_ok_iff.mp hread
  exact (h.onceMore_of_laid hconsumes hlaid hvalues hread name field hfield).1

end Shape
end Checkpointing.Json
