import Checkpointing.Proofs.Json.Grammar
import Checkpointing.Proofs.Json.Record

/-!
# Objects in any spelling

A record reads an object member by member, whatever the order of the members, the blanks around them and
the spelling of their names. It takes the members it knows and may pass over the others.
-/

namespace Checkpointing.Json
set_option autoImplicit false

def Named (name : String) (head : List Char) : Prop :=
  ∃ contents blanks, Spells contents name.toList ∧ Blank blanks ∧
    head = '"' :: (contents ++ '"' :: (blanks ++ [':']))

def IsBraced (members : List (String × List Char)) (text : List Char) : Prop :=
  ∃ cs, Laid Named members cs ∧ text = '\x7b' :: (cs ++ ['\x7d'])

section Names
variable {name : String} {head blanks : List Char}

theorem readName_named (h : Named name head) (hblanks : Blank blanks) (tail : List Char) :
    ∃ cs, readName (blanks ++ (head ++ tail)) = .ok (name, cs) ∧ readColon cs = .ok tail := by
  obtain ⟨contents, blanks', hspells, hblanks', rfl⟩ := h
  refine ⟨blanks' ++ ':' :: tail, ?_, readColon_append hblanks' tail⟩
  rw [readName, List.cons_append, skipSpace_cons hblanks (by decide)]
  simp only [List.append_assoc, List.cons_append, List.nil_append]
  exact stringFrom_quoted hspells (blanks' ++ ':' :: tail)

theorem nextName?_named (h : Named name head) (hblanks : Blank blanks) (tail : List Char) :
    ∃ cs, nextName? true (blanks ++ (head ++ tail)) = .ok (some (name, cs)) ∧
      readColon cs = .ok tail := by
  obtain ⟨cs, hname, hcolon⟩ := readName_named h blank_nil tail
  refine ⟨cs, ?_, hcolon⟩
  obtain ⟨contents, blanks', _, _, rfl⟩ := h
  rw [nextName?, List.cons_append, skipSpace_cons hblanks (by decide)]
  change (readName _).map some = _
  rw [List.nil_append, List.cons_append] at hname
  rw [hname]
  rfl

theorem nextName?_comma_named {blanks' : List Char} (h : Named name head) (hblanks : Blank blanks)
    (hblanks' : Blank blanks') (tail : List Char) :
    ∃ cs, nextName? false (blanks ++ ',' :: (blanks' ++ (head ++ tail))) = .ok (some (name, cs)) ∧
      readColon cs = .ok tail := by
  obtain ⟨cs, hname, hcolon⟩ := readName_named h hblanks' tail
  refine ⟨cs, ?_, hcolon⟩
  rw [nextName?, skipSpace_cons hblanks (by decide)]
  change (readName _).map some = _
  rw [hname]
  rfl

theorem nextName?_closing (first : Bool) (h : Blank blanks) (rest : List Char) :
    nextName? first (blanks ++ '\x7d' :: rest) = .ok none := by
  rw [nextName?, skipSpace_cons h (by decide)]
  rfl

theorem endMembers_closing (h : Blank blanks) (rest : List Char) :
    endMembers (blanks ++ '\x7d' :: rest) = .ok rest := by
  rw [endMembers, skipSpace_cons h (by decide)]
  rfl

end Names

theorem Following.stops {members : List (String × List Char)} {cs : List Char}
    (h : Following Named members cs) (tail : List Char) : Stops (cs ++ '\x7d' :: tail) := by
  intro c hc
  rcases h.head? tail c hc with rfl | rfl | hspace
  · exact Or.inr (Or.inl rfl)
  · exact Or.inl rfl
  · exact Or.inr (Or.inr hspace)

theorem Following.length_le {members : List (String × List Char)} {cs : List Char}
    (h : Following Named members cs) : members.length ≤ cs.length := by
  induction h with
  | done => exact Nat.zero_le _
  | more _ _ _ _ _ ih =>
    simp only [List.length_cons, List.length_append]
    omega

theorem Stops.endsNumber {rest : List Char} (h : Stops rest) : EndsNumber rest := by
  intro c hc
  obtain ⟨tail, rfl⟩ := List.head?_eq_some_iff.mp hc
  obtain ⟨hdigit, hmarks⟩ := h.digit?_eq_none
  exact ⟨by simp [isDigit, hdigit], hmarks⟩

theorem IsJson.skipValue {value blanks rest : List Char} (h : IsJson value) (hblanks : Blank blanks)
    (hrest : EndsNumber rest) : skipValue (blanks ++ (value ++ rest)) = .ok rest := by
  obtain ⟨k, hk⟩ := h.passed
  have hfew := hk.few
  have hskips := skips_value hk hrest hblanks rfl
  apply hskips.skipValue
  simp only [List.length_append]
  omega

namespace Shape
variable {δ α : Type} {shape : Shape δ α} {draft draft' d : δ} {name : String} {cs rest tail : List Char}
  {members : List (String × List Char)} {steps : Nat} {first : Bool}

/-- What becomes of a draft: known members are read into it, each for the first time, and others are
passed over, unless the shape is closed. -/
inductive Collects (shape : Shape δ α) : δ → List (String × List Char) → δ → Prop where
  | nil (draft : δ) : Collects shape draft [] draft
  | known {field : Field δ} {draft draft' d : δ} {name : String} {value : List Char}
      {members : List (String × List Char)} (hfield : shape.fields.find? (·.name = name) = some field)
      (hnew : field.isIn draft = false)
      (hread : Reads (fun cs => (field.read draft cs).outcome) value draft')
      (rest : Collects shape draft' members d) : Collects shape draft ((name, value) :: members) d
  | other {draft d : δ} {name : String} {value : List Char} {members : List (String × List Char)}
      (hother : shape.fields.find? (·.name = name) = none) (hopen : shape.closed = false)
      (hvalue : IsJson value) (rest : Collects shape draft members d) :
      Collects shape draft ((name, value) :: members) d

theorem outcome_readMember_known {field : Field δ}
    (hfield : shape.fields.find? (·.name = name) = some field) (hnew : field.isIn draft = false)
    (hcolon : readColon cs = .ok tail) :
    (shape.readMember draft name cs).outcome = (field.read draft tail).outcome := by
  unfold readMember
  rw [hfield]
  dsimp only
  rw [hnew, if_neg (by simp)]
  exact Traced.outcome_bind_of_ok hcolon _

theorem outcome_readMember_other (hother : shape.fields.find? (·.name = name) = none)
    (hopen : shape.closed = false) (hcolon : readColon cs = .ok tail)
    (hskip : skipValue tail = .ok rest) :
    (shape.readMember draft name cs).outcome = .ok (draft, rest) := by
  unfold readMember
  rw [hother]
  dsimp only
  rw [hopen, if_neg (by simp)]
  apply (Traced.outcome_bind_of_ok hcolon _).trans
  exact Traced.outcome_bind_of_ok hskip _

theorem outcome_readMembers_succ (hname : nextName? first cs = .ok (some (name, tail)))
    (hmember : (shape.readMember draft name tail).outcome = .ok (draft', rest)) :
    (shape.readMembers (steps + 1) first draft cs).outcome =
      (shape.readMembers steps false draft' rest).outcome := by
  rw [readMembers]
  apply (Traced.outcome_bind_of_ok hname _).trans
  exact Traced.outcome_bind_of_ok hmember _

theorem Collects.exists_readMember {value : List Char}
    (h : Collects shape draft ((name, value) :: members) d) :
    ∃ draft', Collects shape draft' members d ∧ ∀ {cs blanks rest}, Blank blanks → Stops rest →
      readColon cs = .ok (blanks ++ (value ++ rest)) →
      (shape.readMember draft name cs).outcome = .ok (draft', rest) := by
  cases h with
  | @known field _ draft' _ _ _ _ hfield hnew hread hmembers =>
    refine ⟨draft', hmembers, ?_⟩
    intro cs blanks rest hblanks hrest hcolon
    rw [outcome_readMember_known hfield hnew hcolon]
    exact hread blanks rest hblanks hrest
  | other hother hopen hvalue hmembers =>
    refine ⟨draft, hmembers, ?_⟩
    intro cs blanks rest hblanks hrest hcolon
    exact outcome_readMember_other hother hopen hcolon
      (hvalue.skipValue hblanks hrest.endsNumber)

theorem Collects.readMembers (h : Collects shape draft members d) (hlaid : Following Named members cs)
    (tail : List Char) (hsteps : members.length < steps) :
    ∃ cs', (shape.readMembers steps false draft (cs ++ '\x7d' :: tail)).outcome = .ok (d, cs') ∧
      endMembers cs' = .ok tail := by
  induction hlaid generalizing draft steps with
  | @done blanks hb =>
    cases h
    cases steps with
    | zero => exact absurd hsteps (Nat.not_lt_zero _)
    | succ steps =>
      refine ⟨blanks ++ '\x7d' :: tail, ?_, endMembers_closing hb tail⟩
      rw [Shape.readMembers]
      exact (Traced.outcome_bind_of_ok (nextName?_closing false hb tail) _).trans rfl
  | @more blanks blanks' head blanks'' value cs name members hb hb' hhead hb'' hrest ih =>
    cases steps with
    | zero => exact absurd hsteps (Nat.not_lt_zero _)
    | succ steps =>
      obtain ⟨draft', hmembers, hread⟩ := h.exists_readMember
      obtain ⟨named, hname, hcolon⟩ :=
        nextName?_comma_named hhead hb hb' (blanks'' ++ (value ++ (cs ++ '\x7d' :: tail)))
      obtain ⟨cs', hmore, hend⟩ := ih hmembers (Nat.lt_of_succ_lt_succ hsteps)
      refine ⟨cs', ?_, hend⟩
      simp only [List.append_assoc, List.cons_append]
      rw [outcome_readMembers_succ hname (hread hb'' (hrest.stops tail) hcolon), hmore]

theorem Collects.readFirst (h : Collects shape draft members d) (hlaid : Laid Named members cs)
    (tail : List Char) : ∃ cs', (shape.readMembers ((cs ++ '\x7d' :: tail).length + 1) true draft
      (cs ++ '\x7d' :: tail)).outcome = .ok (d, cs') ∧ endMembers cs' = .ok tail := by
  cases hlaid with
  | none hb =>
    cases h
    refine ⟨_, ?_, endMembers_closing hb tail⟩
    rw [Shape.readMembers]
    exact (Traced.outcome_bind_of_ok (nextName?_closing true hb tail) _).trans rfl
  | @some blanks head blanks' value cs name members hb hhead hb' hrest =>
    obtain ⟨draft', hmembers, hread⟩ := h.exists_readMember
    obtain ⟨named, hname, hcolon⟩ :=
      nextName?_named hhead hb (blanks' ++ (value ++ (cs ++ '\x7d' :: tail)))
    have hlength := hrest.length_le
    have hsteps : members.length <
        (blanks ++ (head ++ (blanks' ++ (value ++ cs))) ++ '\x7d' :: tail).length := by
      simp only [List.length_append, List.length_cons]
      omega
    obtain ⟨cs', hmore, hend⟩ := hmembers.readMembers hrest tail hsteps
    refine ⟨cs', ?_, hend⟩
    simp only [List.append_assoc] at hmore ⊢
    rw [outcome_readMembers_succ hname (hread hb' (hrest.stops tail) hcolon), hmore]

theorem Collects.read {a : α} {text : List Char} (h : Collects shape shape.start members d)
    (hfinish : shape.finish d = .ok a) (htext : IsBraced members text) :
    Reads (fun cs => (shape.read cs).outcome) text a := by
  intro blanks rest hblanks _
  obtain ⟨cs, hlaid, rfl⟩ := htext
  obtain ⟨cs', hread, hend⟩ := h.readFirst hlaid rest
  dsimp only
  rw [List.cons_append, List.append_assoc, Shape.read, skipSpace_cons hblanks (by decide)]
  apply (Traced.outcome_bind_of_ok hread _).trans
  apply (Traced.outcome_bind_of_ok hfinish _).trans
  exact (Traced.outcome_bind_of_ok hend _).trans rfl

end Shape
/-! ## Names out of a fixed set -/

/-- A name where one of some names is wanted: a string, or an object whose only member has that name and
is null. -/
inductive IsVariant (name : String) : List Char → Prop where
  | string {contents : List Char} (hcontents : Spells contents name.toList) :
      IsVariant name ('"' :: (contents ++ ['"']))
  | map {text : List Char} (htext : IsBraced [(name, "null".toList)] text) : IsVariant name text

theorem readUnit_null {blanks : List Char} (h : Blank blanks) (rest : List Char) :
    readUnit (blanks ++ ("null".toList ++ rest)) = .ok rest := by
  have htext : "null".toList = 'n' :: "ull".toList := by decide
  rw [readUnit, htext, List.cons_append, skipSpace_cons h (by decide)]
  exact literal_append _ rest

section Variants
variable {α : Type} {ofName? : String → Option α} {known : List String} {name : String} {a : α}

theorem reads_variant_string {contents : List Char} (hcontents : Spells contents name.toList)
    (ha : ofName? name = some a) :
    Reads (readVariant ofName? known) ('"' :: (contents ++ ['"'])) a := by
  intro blanks rest hblanks _
  rw [readVariant, List.cons_append, skipSpace_cons hblanks (by decide), List.append_assoc]
  refine Outcome.bind_eq_ok_iff.mpr ⟨(name, rest), stringFrom_quoted hcontents rest, ?_⟩
  exact Outcome.bind_eq_ok_iff.mpr ⟨a, by simp [variant, ha], rfl⟩

theorem reads_variant_map {text : List Char} (htext : IsBraced [(name, "null".toList)] text)
    (ha : ofName? name = some a) : Reads (readVariant ofName? known) text a := by
  intro blanks rest hblanks _
  obtain ⟨cs, hlaid, rfl⟩ := htext
  cases hlaid with
  | @some blanks₁ head blanks₂ _ blanks₃ _ _ hb₁ hhead hb₂ hrest =>
    cases hrest with
    | done hb₃ =>
      obtain ⟨named, hname, hcolon⟩ := readName_named hhead hb₁
        (blanks₂ ++ ("null".toList ++ (blanks₃ ++ '\x7d' :: rest)))
      rw [readVariant, List.cons_append, skipSpace_cons hblanks (by decide)]
      simp only [List.append_assoc, List.cons_append, List.nil_append]
      refine Outcome.bind_eq_ok_iff.mpr ⟨_, hname, ?_⟩
      refine Outcome.bind_eq_ok_iff.mpr ⟨a, by simp [variant, ha], ?_⟩
      refine Outcome.bind_eq_ok_iff.mpr ⟨_, hcolon, ?_⟩
      refine Outcome.bind_eq_ok_iff.mpr ⟨_, readUnit_null hb₂ _, ?_⟩
      rw [skipSpace_cons hb₃ (by decide)]
      rfl

theorem IsVariant.reads {text : List Char} (h : IsVariant name text) (ha : ofName? name = some a) :
    Reads (readVariant ofName? known) text a := by
  cases h with
  | string hcontents => exact reads_variant_string hcontents ha
  | map htext => exact reads_variant_map htext ha

end Variants
end Checkpointing.Json
