/-
**Relaxed definitions.**

A definition is *relaxed* by one of these: a leaf becomes wider, or a length does; null is allowed; an
object is strict no more; entries are appended to a choice.  This may happen anywhere within the
definition, and any number of times.  What stays is all that gives a value its form: types, names of
fields, defaults and patterns.

A relaxed definition accepts whatever the definition did.  It answers the same if choices are among
literals.  Otherwise it need not: an entry that has been relaxed may take a value before the entry that
took it first.

On the way from one definition to another there may be some without a validator, for their kinds need
not exist.  So the proof does not go from one relaxation to the next.  It joins all of them into one
relation first, in which every part of a definition is relaxed at once.

Main definitions:

* `Definition.Relaxation` — one relaxation, anywhere within a definition;
* `Definition.Relaxes` — relaxations everywhere within a definition at once.

Main results:

* `Definition.relaxes_of_relaxations` — any number of relaxations are relaxations at once;
* `Definition.covers_of_relaxes` — what is answered is answered by a relaxed definition;
* `Definition.accepts_of_relaxations` — **a relaxed definition accepts what the definition accepts**.
-/

import Conform.Proofs.Definition.Projection
import Conform.Proofs.Definition.Widening

set_option relaxedAutoImplicit false
set_option autoImplicit false

namespace Conform

/-! ### Relations between parts -/

/-- Fields of the same name are related if their definitions are. -/
inductive FieldRelated {δ : Type} (R : δ → δ → Prop) : String × δ → String × δ → Prop
  | intro (name : String) {d d' : δ} : R d d' → FieldRelated R (name, d) (name, d')

/-- Entries of a choice are related if they are the same literal, or their definitions are related. -/
inductive ChoiceEntry.Related {δ : Type} (R : δ → δ → Prop) : ChoiceEntry δ → ChoiceEntry δ → Prop
  | literal (value : Json) : Related R (.literal value) (.literal value)
  | property {d d' : δ} : R d d' → Related R (.property d) (.property d')

/-- The options differ in nothing but that null may be allowed now. -/
def Options.Relaxes (options options' : Options) : Prop :=
  options'.default = options.default ∧ (options.nullable = true → options'.nullable = true)

theorem Options.Relaxes.refl (options : Options) : options.Relaxes options := ⟨rfl, id⟩

theorem Options.Relaxes.trans {options options' options'' : Options} (h : options.Relaxes options')
    (h' : options'.Relaxes options'') : options.Relaxes options'' :=
  ⟨h'.1.trans h.1, h'.2 ∘ h.2⟩

/-- Options with another nullability have the same stand-in. -/
theorem Options.Relaxes.standIn {options options' : Options} (h : options.Relaxes options')
    (v : Value) : options'.standIn v = options.standIn v := by
  cases v <;> simp [Options.standIn, h.1]

namespace Definition

/-! ### One relaxation -/

/-- One relaxation of a definition, at a time: at the definition itself, or within a part of it. -/
inductive Relaxation (now : DateTime) : Definition → Definition → Prop
  /-- bounds go or move outwards, or more kinds are admitted -/
  | leaf {type type' : LeafType} {options : Options} : type.Widens now type' →
      Relaxation now (leaf type options) (leaf type' options)
  /-- bounds of the length of an array go or move outwards -/
  | length {items : Definition} {length length' : LengthBounds} {options : Options} :
      length.Widens length' → Relaxation now (array items length options) (array items length' options)
  /-- null is allowed -/
  | nullable (d : Definition) : Relaxation now d (d.withOptions { d.options with nullable := true })
  /-- undeclared names are not refused any more -/
  | lenient {fields : List (String × Definition)} {strict : Bool} {options : Options} :
      Relaxation now (object fields strict options) (object fields false options)
  /-- entries are appended to a choice -/
  | append {entries more : List (ChoiceEntry Definition)} {options : Options} :
      Relaxation now (choice entries options) (choice (entries ++ more) options)
  /-- a field of an object is relaxed -/
  | field {front rest : List (String × Definition)} {name : String} {d d' : Definition}
      {strict : Bool} {options : Options} : Relaxation now d d' →
      Relaxation now (object (front ++ (name, d) :: rest) strict options)
        (object (front ++ (name, d') :: rest) strict options)
  /-- the items of an array are relaxed -/
  | items {d d' : Definition} {length : LengthBounds} {options : Options} : Relaxation now d d' →
      Relaxation now (array d length options) (array d' length options)
  /-- an entry of a choice is relaxed -/
  | entry {front rest : List (ChoiceEntry Definition)} {d d' : Definition} {options : Options} :
      Relaxation now d d' → Relaxation now (choice (front ++ .property d :: rest) options)
        (choice (front ++ .property d' :: rest) options)

/-! ### Relaxations at once -/

/-- The definition and all definitions within it are relaxed, or stay as they are. -/
inductive Relaxes (now : DateTime) : Definition → Definition → Prop
  | leaf {type type' : LeafType} {options options' : Options} : type.Widens now type' →
      options.Relaxes options' → Relaxes now (leaf type options) (leaf type' options')
  | object {fields fields' : List (String × Definition)} {strict strict' : Bool}
      {options options' : Options} : List.Forall₂ (FieldRelated (Relaxes now)) fields fields' →
      (strict' = true → strict = true) → options.Relaxes options' →
      Relaxes now (object fields strict options) (object fields' strict' options')
  | array {items items' : Definition} {length length' : LengthBounds} {options options' : Options} :
      Relaxes now items items' → length.Widens length' → options.Relaxes options' →
      Relaxes now (array items length options) (array items' length' options')
  | choice {entries entries' more : List (ChoiceEntry Definition)} {options options' : Options} :
      List.Forall₂ (ChoiceEntry.Related (Relaxes now)) entries entries' → options.Relaxes options' →
      Relaxes now (choice entries options) (choice (entries' ++ more) options')

variable {now start start' : DateTime} {d d' d'' : Definition} {v w : Value}

/-- Fields are related to themselves if their definitions are. -/
theorem forall₂_fields_same {R : Definition → Definition → Prop}
    {fields : List (String × Definition)} (h : ∀ field ∈ fields, R field.2 field.2) :
    List.Forall₂ (FieldRelated R) fields fields :=
  List.forall₂_same.2 fun field hmem => .intro field.1 (h field hmem)

/-- Related fields have the same names. -/
theorem names_of_related {R : Definition → Definition → Prop}
    {fields fields' : List (String × Definition)} (h : List.Forall₂ (FieldRelated R) fields fields') :
    Members.names fields' = Members.names fields := by
  induction h with
  | nil => rfl
  | cons hhead _ ih =>
      cases hhead with
      | intro name _ => exact congrArg (name :: ·) ih

/-- Entries are related to themselves if their definitions are. -/
theorem forall₂_entries_same {R : Definition → Definition → Prop}
    {entries : List (ChoiceEntry Definition)} (h : ∀ d, .property d ∈ entries → R d d) :
    List.Forall₂ (ChoiceEntry.Related R) entries entries := by
  refine List.forall₂_same.2 fun entry hmem => ?_
  cases entry with
  | literal j => exact .literal j
  | property d => exact .property (h d hmem)

/-- Without more entries behind them, entries are relaxed within a choice. -/
theorem relaxes_choice {entries entries' : List (ChoiceEntry Definition)} {options options' : Options}
    (h : List.Forall₂ (ChoiceEntry.Related (Relaxes now)) entries entries')
    (hoptions : options.Relaxes options') :
    Relaxes now (choice entries options) (choice entries' options') := by
  have hnone : Relaxes now (choice entries options) (choice (entries' ++ []) options') :=
    .choice h hoptions
  rwa [List.append_nil] at hnone

theorem Relaxes.refl (d : Definition) : Relaxes now d d := by
  induction d with
  | leaf type options => exact .leaf (.refl type) (.refl options)
  | object fields strict options ih => exact .object (forall₂_fields_same ih) id (.refl options)
  | array items length options ih => exact .array ih (.refl length) (.refl options)
  | choice entries options ih => exact relaxes_choice (forall₂_entries_same ih) (.refl options)

/-- One relaxation is one of those that may be made at once. -/
theorem Relaxation.relaxes (h : Relaxation now d d') : Relaxes now d d' := by
  induction h with
  | leaf htype => exact .leaf htype (.refl _)
  | length hlength => exact .array (.refl _) hlength (.refl _)
  | nullable d =>
      have hoptions : d.options.Relaxes { d.options with nullable := true } := ⟨rfl, fun _ => rfl⟩
      cases d with
      | leaf type options => exact .leaf (.refl type) hoptions
      | object fields strict options =>
          exact .object (forall₂_fields_same fun field _ => .refl field.2) id hoptions
      | array items length options => exact .array (.refl items) (.refl length) hoptions
      | choice entries options =>
          exact relaxes_choice (forall₂_entries_same fun d _ => .refl d) hoptions
  | lenient => exact .object (forall₂_fields_same fun field _ => .refl field.2) nofun (.refl _)
  | append => exact .choice (forall₂_entries_same fun d _ => .refl d) (.refl _)
  | @field front rest name d d' strict options _ ih =>
      have hsame : ∀ fields : List (String × Definition),
          List.Forall₂ (FieldRelated (Relaxes now)) fields fields :=
        fun fields => forall₂_fields_same fun field _ => .refl field.2
      exact .object (List.rel_append (hsame front) (.cons (.intro name ih) (hsame rest))) id
        (.refl options)
  | items _ ih => exact .array ih (.refl _) (.refl _)
  | @entry front rest d d' options _ ih =>
      have hsame : ∀ entries : List (ChoiceEntry Definition),
          List.Forall₂ (ChoiceEntry.Related (Relaxes now)) entries entries :=
        fun entries => forall₂_entries_same fun d _ => .refl d
      exact relaxes_choice (List.rel_append (hsame front) (.cons (.property ih) (hsame rest)))
        (.refl options)

/-- What two relations make of a member of the first list, one after the other, they make of all. -/
theorem forall₂_trans {α : Type} {R S T : α → α → Prop} {as bs cs : List α}
    (h : ∀ a ∈ as, ∀ b c, R a b → S b c → T a c) (hab : List.Forall₂ R as bs)
    (hbc : List.Forall₂ S bs cs) : List.Forall₂ T as cs := by
  induction hab generalizing cs with
  | nil =>
      cases hbc
      exact .nil
  | @cons a b as bs hhead _ ih =>
      obtain ⟨c, cs, hhead', hrest', rfl⟩ := List.forall₂_cons_left_iff.1 hbc
      obtain ⟨hhere, hmore⟩ := List.forall_mem_cons.1 h
      exact .cons (hhere b c hhead hhead') (ih hmore hrest')

/-- What is related to a list in two parts has two parts. -/
theorem forall₂_append_left {α : Type} {R : α → α → Prop} {as bs cs : List α}
    (h : List.Forall₂ R (as ++ bs) cs) :
    ∃ as' bs', cs = as' ++ bs' ∧ List.Forall₂ R as as' ∧ List.Forall₂ R bs bs' := by
  induction as generalizing cs with
  | nil => exact ⟨[], cs, rfl, .nil, h⟩
  | cons a as ih =>
      obtain ⟨c, cs, hhead, hrest, rfl⟩ := List.forall₂_cons_left_iff.1 h
      obtain ⟨as', bs', rfl, has, hbs⟩ := ih hrest
      exact ⟨c :: as', bs', rfl, .cons hhead has, hbs⟩

theorem Relaxes.trans (h : Relaxes now d d') (h' : Relaxes now d' d'') : Relaxes now d d'' := by
  induction d generalizing d' d'' with
  | leaf type options =>
      cases h with
      | leaf htype hoptions =>
          cases h' with
          | leaf htype' hoptions' => exact .leaf (htype.trans htype') (hoptions.trans hoptions')
  | object fields strict options ih =>
      cases h with
      | object hfields hstrict hoptions =>
          cases h' with
          | object hfields' hstrict' hoptions' =>
              refine .object (forall₂_trans ?_ hfields hfields') (hstrict ∘ hstrict')
                (hoptions.trans hoptions')
              rintro field hmem _ _ ⟨name, hd⟩ ⟨_, hd'⟩
              exact .intro name (ih _ hmem hd hd')
  | array items length options ih =>
      cases h with
      | array hitems hlength hoptions =>
          cases h' with
          | array hitems' hlength' hoptions' =>
              exact .array (ih hitems hitems') (hlength.trans hlength') (hoptions.trans hoptions')
  | choice entries options ih =>
      cases h with
      | choice hentries hoptions =>
          cases h' with
          | choice hentries' hoptions' =>
              -- what was appended before stands in front of what is appended now
              obtain ⟨front, appended, rfl, hfront, -⟩ := forall₂_append_left hentries'
              rw [List.append_assoc]
              refine .choice (forall₂_trans ?_ hentries hfront) (hoptions.trans hoptions')
              rintro entry hmem _ _ (j | hd) hrelated
              · exact hrelated
              · cases hrelated with
                | property hd' => exact .property (ih _ hmem hd hd')

/-- **Any number of relaxations are relaxations at once.** -/
theorem relaxes_of_relaxations (h : Relation.ReflTransGen (Relaxation now) d d') :
    Relaxes now d d' := by
  induction h with
  | refl => exact .refl d
  | tail _ hstep ih => exact ih.trans hstep.relaxes

/-! ### Answers -/

/-- Whatever the one definition answers the other answers too, and the same if its choices are among
literals. -/
def Covers (now : DateTime) (d d' : Definition) : Prop :=
  ∀ v w, answer now d v = .ok w →
    ∃ w', answer now d' v = .ok w' ∧ (d'.LiteralChoices → w' = w)

theorem exists_answerFields_of_covers {fields fields' : List (String × Definition)}
    {members out : Members Value} (h : List.Forall₂ (FieldRelated (Covers now)) fields fields')
    (hout : answerFields now fields members = .ok out) :
    ∃ out', answerFields now fields' members = .ok out' ∧
      ((∀ field ∈ fields', field.2.LiteralChoices) → out' = out) := by
  induction h generalizing out with
  | nil => exact ⟨out, hout, fun _ => rfl⟩
  | cons hhead _ ih =>
      cases hhead with
      | intro name hcovers =>
          obtain ⟨value, hvalue, hout⟩ := bind_eq_ok.1 hout
          obtain ⟨others, hothers, hout⟩ := bind_eq_ok.1 hout
          cases hout
          obtain ⟨value', hvalue', hsame⟩ := hcovers _ value (mapError_eq_ok.1 hvalue)
          obtain ⟨others', hothers', hsames⟩ := ih hothers
          refine ⟨(name, value') :: others', ?_, fun hliteral => ?_⟩
          · exact bind_eq_ok.2 ⟨value', mapError_eq_ok.2 hvalue',
              bind_eq_ok.2 ⟨others', hothers', rfl⟩⟩
          · obtain ⟨hfield, hrest⟩ := List.forall_mem_cons.1 hliteral
            rw [hsame hfield, hsames hrest]

theorem exists_items_of_covers {inputs outputs : List Value} (h : Covers now d d')
    (hout : List.Forall₂ (fun item value => answer now d item = .ok value) inputs outputs) :
    ∃ outputs', List.Forall₂ (fun item value => answer now d' item = .ok value) inputs outputs' ∧
      (d'.LiteralChoices → outputs' = outputs) := by
  induction hout with
  | nil => exact ⟨[], .nil, fun _ => rfl⟩
  | @cons item value _ _ hitem _ ih =>
      obtain ⟨value', hvalue', hsame⟩ := h item value hitem
      obtain ⟨others', hothers', hsames⟩ := ih
      refine ⟨value' :: others', .cons hvalue' hothers', fun hliteral => ?_⟩
      rw [hsame hliteral, hsames hliteral]

/-- Where the entries have a first match, so have entries that cover them, with more behind. -/
theorem exists_answerEntries_of_covers {entries entries' : List (ChoiceEntry Definition)}
    (h : List.Forall₂ (ChoiceEntry.Related (Covers now)) entries entries')
    (more : List (ChoiceEntry Definition)) (hout : answerEntries now entries v = some w) :
    ∃ w', answerEntries now (entries' ++ more) v = some w' := by
  induction h with
  | nil => cases hout
  | cons hhead _ ih =>
      cases hhead with
      | literal j =>
          rw [answerEntries] at hout
          rw [List.cons_append, answerEntries]
          split
          · exact ⟨v, rfl⟩
          · next hequal =>
              rw [if_neg hequal] at hout
              exact ih hout
      | @property d d' hcovers =>
          rw [List.cons_append, answerEntries]
          cases hanswer : answer now d' v with
          | ok w' => exact ⟨w', rfl⟩
          | error fault' =>
              -- an entry that fails when relaxed has failed before
              cases hbefore : answer now d v with
              | ok u =>
                  obtain ⟨u', hu', -⟩ := hcovers v u hbefore
                  cases hanswer.symm.trans hu'
              | error fault =>
                  rw [answerEntries, hbefore] at hout
                  exact ih hout

/-- Entries that are related to literals are literals. -/
theorem isLiteral_of_related {R : Definition → Definition → Prop}
    {entries entries' : List (ChoiceEntry Definition)}
    (h : List.Forall₂ (ChoiceEntry.Related R) entries entries')
    (hliteral : ∀ entry ∈ entries', isLiteral entry = true) :
    ∀ entry ∈ entries, isLiteral entry = true := by
  induction h with
  | nil => exact hliteral
  | cons hhead _ ih =>
      obtain ⟨hentry, hrest⟩ := List.forall_mem_cons.1 hliteral
      refine List.forall_mem_cons.2 ⟨?_, ih hrest⟩
      cases hhead with
      | literal j => rfl
      | property hd => cases hentry

/-- What is related entry by entry is related together with the membership of both. -/
theorem forall₂_with_mem {α : Type} {R : α → α → Prop} {as bs : List α} (h : List.Forall₂ R as bs) :
    List.Forall₂ (fun a b => a ∈ as ∧ b ∈ bs ∧ R a b) as bs := by
  have hright := (List.forall₂_and_left bs as).2 ⟨fun _ hb => hb, h.flip⟩
  exact (List.forall₂_and_left as bs).2 ⟨fun _ ha => ha, hright.flip⟩

/-- **What a definition answers is answered by a relaxed definition**, whose kinds exist. -/
theorem covers_of_relaxes (hsound : d'.Sound start) (h : Relaxes now d d') : Covers now d d' := by
  induction d generalizing d' with
  | leaf type options =>
      cases h with
      | @leaf _ type' _ options' htype hoptions =>
          intro v w hanswer
          refine ⟨w, ?_, fun _ => rfl⟩
          rw [answer, Options.answer_eq_ok] at hanswer ⊢
          rw [hoptions.standIn]
          rcases hanswer with ⟨hnull, hnullable, hw⟩ | ⟨hne, hw⟩
          · exact .inl ⟨hnull, hoptions.2 hnullable, hw⟩
          · exact .inr ⟨hne, LeafType.answer_of_widens htype hsound.1 hw⟩
  | object fields strict options ih =>
      cases h with
      | @object _ fields' _ strict' _ options' hfields hstrict hoptions =>
          intro v w hanswer
          have hcovers : List.Forall₂ (FieldRelated (Covers now)) fields fields' := by
            refine (forall₂_with_mem hfields).imp ?_
            rintro _ _ ⟨hmem, hmem', ⟨name, hd⟩⟩
            exact .intro name (ih _ hmem ((everywhere_object.1 hsound).2 _ hmem') hd)
          rcases object_eq_ok.1 hanswer with ⟨hnull, hnullable, rfl⟩ |
            ⟨inputs, outputs, hinputs, hdeclared, hout, rfl⟩
          · refine ⟨.null, object_eq_ok.2 (.inl ⟨?_, hoptions.2 hnullable, rfl⟩), fun _ => rfl⟩
            rwa [hoptions.standIn]
          · obtain ⟨outputs', hout', hsame⟩ := exists_answerFields_of_covers hcovers hout
            refine ⟨.object outputs', object_eq_ok.2 (.inr ⟨inputs, outputs', ?_, ?_, hout', rfl⟩), ?_⟩
            · rwa [hoptions.standIn]
            · intro hstrict' name hname
              have hnames : Members.names fields' = Members.names fields := names_of_related hfields
              rw [hnames]
              exact hdeclared (hstrict hstrict') name hname
            · intro hliteral
              rw [hsame (everywhere_object.1 hliteral).2]
  | array items length options ih =>
      cases h with
      | @array _ items' _ length' _ options' hitems hlength hoptions =>
          intro v w hanswer
          obtain ⟨inputs, outputs, hinputs, hadmits, hout, rfl⟩ := array_eq_ok.1 hanswer
          obtain ⟨outputs', hout', hsame⟩ := exists_items_of_covers (ih hsound.2 hitems) hout
          refine ⟨.array outputs', array_eq_ok.2 ⟨inputs, outputs', hinputs,
            LengthBounds.admits_of_widens hlength hadmits, hout', rfl⟩, fun hliteral => ?_⟩
          rw [hsame hliteral.2]
  | choice entries options ih =>
      cases h with
      | @choice _ entries' more _ options' hentries hoptions =>
          intro v w hanswer
          have hcovers : List.Forall₂ (ChoiceEntry.Related (Covers now)) entries entries' := by
            refine (forall₂_with_mem hentries).imp ?_
            rintro _ _ ⟨hmem, hmem', (j | hd)⟩
            · exact .literal j
            · exact .property (ih _ hmem
                ((everywhere_choice.1 hsound).2 _ (List.mem_append_left more hmem')) hd)
          rcases choice_eq_ok.1 hanswer with ⟨hnull, hnullable, rfl⟩ | ⟨hne, hentry⟩
          · refine ⟨.null, choice_eq_ok.2 (.inl ⟨?_, hoptions.2 hnullable, rfl⟩), fun _ => rfl⟩
            rwa [hoptions.standIn]
          · obtain ⟨w', hentry'⟩ := exists_answerEntries_of_covers hcovers more hentry
            refine ⟨w', choice_eq_ok.2 (.inr ?_), fun hliteral => ?_⟩
            · rw [hoptions.standIn]
              exact ⟨hne, hentry'⟩
            · -- among literals the first match is the value itself
              have hfront := fun entry hmem =>
                hliteral.1 entry (List.mem_append_left more hmem)
              rw [answerEntries_of_literals hliteral.1 hentry',
                answerEntries_of_literals (isLiteral_of_related hentries hfront) hentry]

/-- **A relaxed definition accepts what the definition accepts**, with the same result if choices are
among literals.  Both have validators, and the time stands still. -/
theorem accepts_of_relaxations (hd : d.WellFormed) (hd' : d'.WellFormed)
    (hrelaxed : Relation.ReflTransGen (Relaxation now) d d') {f f' : Validator Clocked}
    (hbuild : d.build.asOf start = .ok f) (hbuild' : d'.build.asOf start' = .ok f')
    (hrun : (f v).asOf now = .ok w) :
    ∃ w', (f' v).asOf now = .ok w' ∧ (d.LiteralChoices → d'.LiteralChoices → w' = w) := by
  rw [asOf_of_validator hd hbuild] at hrun
  have hsound : d'.Sound start' := (validator_eq_ok_iff hd').1 ⟨f', hbuild'⟩
  obtain ⟨w', hw', hsame⟩ := covers_of_relaxes hsound (relaxes_of_relaxations hrelaxed) v w hrun
  exact ⟨w', by rwa [asOf_of_validator hd' hbuild'], fun _ => hsame⟩

/-- A ticket: its class, its day, and the numbers of its seats. -/
def ticket (strict : Bool) (kind day seats : Definition) : Definition :=
  object [("class", kind), ("day", day), ("seats", seats)] strict .standard

/-- A ticket of a known class, for yesterday or later, with one or two seats. -/
def ticketBefore : Definition :=
  ticket true (choice [.literal (.str "open")] .standard)
    (leaf (.date (some (.relative (-1))) none) ⟨false, none⟩)
    (array (leaf (.int (some 1) none) .standard) ⟨some 1, some 2⟩ .standard)

/-- A ticket of one more class, for two days ago or later or without a day, with any seats. -/
def ticketAfter : Definition :=
  ticket false (choice [.literal (.str "open"), .literal (.int 1)] .standard)
    (leaf (.date (some (.relative (-2))) none) ⟨true, none⟩)
    (array (leaf (.int none none) .standard) ⟨some 1, none⟩ .standard)

/-- A ticket put in. -/
def ticketInput : Value :=
  .object [("class", .string "open"), ("day", .date ⟨0⟩), ("seats", .array [.int 7])]

theorem relaxations_ticket :
    Relation.ReflTransGen (Relaxation DateTime.epoch) ticketBefore ticketAfter := by
  have hday : Widens (TimeBound.Below Date.NotAfter Date.parse DateTime.shiftDate? DateTime.epoch)
      (some (.relative (-1))) none (some (.relative (-2))) none := by
    refine ⟨?_, nofun⟩
    rintro _ ⟨⟩
    exact ⟨_, rfl, .inr (TimeBound.below_shiftDate? (by decide) ⟨_, rfl⟩ ⟨_, rfl⟩)⟩
  have hlength : LengthBounds.Widens ⟨some 1, some 2⟩ ⟨some 1, none⟩ := ⟨.refl _ _, nofun⟩
  have hseat : LeafType.Widens DateTime.epoch (.int (some 1) none) (.int none none) :=
    .int ⟨nofun, nofun⟩
  refine .head .lenient ?_
  refine .head (@Relaxation.field _ [] _ "class" _ _ _ _ (@Relaxation.append _ _ [.literal (.int 1)] _)) ?_
  refine .head (@Relaxation.field _ [("class", _)] _ "day" _ _ _ _ (.leaf (.date hday))) ?_
  refine .head (@Relaxation.field _ [("class", _)] _ "day" _ _ _ _ (.nullable _)) ?_
  refine .head (@Relaxation.field _ [("class", _), ("day", _)] _ "seats" _ _ _ _ (.length hlength)) ?_
  exact .single
    (@Relaxation.field _ [("class", _), ("day", _)] _ "seats" _ _ _ _ (.items (.leaf hseat)))

theorem accepts_of_relaxations_ticket : ∃ f f', ticketBefore.build.asOf DateTime.epoch = .ok f ∧
    ticketAfter.build.asOf DateTime.epoch = .ok f' ∧
      (f ticketInput).asOf DateTime.epoch = .ok ticketInput ∧
      ∃ w', (f' ticketInput).asOf DateTime.epoch = .ok w' ∧ w' = ticketInput := by
  have hd : ticketBefore.WellFormed := by decide
  have hd' : ticketAfter.WellFormed := by decide
  obtain ⟨f, hf⟩ : ∃ f, ticketBefore.build.asOf DateTime.epoch = .ok f := ⟨_, rfl⟩
  obtain ⟨f', hf'⟩ : ∃ f', ticketAfter.build.asOf DateTime.epoch = .ok f' := ⟨_, rfl⟩
  have hrun : (f ticketInput).asOf DateTime.epoch = .ok ticketInput := by
    rw [asOf_of_validator hd hf]
    rfl
  obtain ⟨w', hw', hsame⟩ := accepts_of_relaxations hd hd' relaxations_ticket hf hf' hrun
  exact ⟨f, f', hf, hf', hrun, w', hw', hsame (by decide) (by decide)⟩

end Definition

end Conform
