import Mathlib.Data.List.Basic
import Mathlib.Data.List.Nodup
import Mathlib.Logic.Equiv.Defs

/-!
# Records of a self-describing format

Values among which there are lists, tables and keys.  A codec writes what it is given
and reads what it can.  A record is read from a table by the keys of its fields, whatever
else the table holds, or from a list by their order; what is under a tag of a table, or
first in a list, can say which record the rest is.

A value survives a codec if it is read back as it was written.  For a record this is a
matter of each field on its own.
-/

namespace StratumBridge.Data

universe u v w x

/-- What there is to see of a value. -/
inductive View (κ : Type u) (υ : Type v)
  | items (items : List υ)
  | entries (entries : List (κ × υ))
  | leaf

/-- Values with lists, tables and keys among them. -/
class Document (κ : outParam (Type u)) (υ : Type v) where
  view : υ → View κ υ
  list : List υ → υ
  table : List (κ × υ) → υ
  key : κ → υ
  asKey : υ → Option κ
  isNull : υ → Bool
  view_list (items : List υ) : view (list items) = .items items
  view_table (entries : List (κ × υ)) : view (table entries) = .entries entries
  asKey_key (name : κ) : asKey (key name) = some name

attribute [simp] Document.view_list Document.view_table Document.asKey_key

/-! ## Codecs -/

/-- How values of a type are written, and what they are read from. -/
structure Codec (υ : Type v) (α : Type w) where
  write : α → υ
  read : υ → Option α

variable {κ : Type u} {υ : Type v} {α : Type w} {β : Type x}

namespace Codec

variable {codec : Codec υ α} {P : α → Prop} {a : α}

/-- The value is read back as it was written. -/
def Survives (codec : Codec υ α) (a : α) : Prop :=
  codec.read (codec.write a) = some a

/-- Whatever is read has the property. -/
def Yields (codec : Codec υ α) (P : α → Prop) : Prop :=
  ∀ value a, codec.read value = some a → P a

/-- The same values in another guise. -/
def as (codec : Codec υ α) (guise : α ≃ β) : Codec υ β where
  write b := codec.write (guise.symm b)
  read value := (codec.read value).map guise

@[simp]
theorem survives_as (codec : Codec υ α) (guise : α ≃ β) (b : β) :
    (codec.as guise).Survives b ↔ codec.Survives (guise.symm b) := by
  simp only [Survives, as, Option.map_eq_some_iff]
  constructor
  · rintro ⟨a, read, rfl⟩
    rw [guise.symm_apply_apply] at read ⊢
    exact read
  · intro read
    exact ⟨_, read, guise.apply_symm_apply b⟩

variable [Document κ υ]

/-- A list of values. -/
def list (codec : Codec υ α) : Codec υ (List α) where
  write items := Document.list (items.map codec.write)
  read value :=
    match Document.view value with
    | .items items => items.mapM codec.read
    | _ => none

@[simp]
theorem survives_list (codec : Codec υ α) (items : List α) :
    codec.list.Survives items ↔ ∀ a ∈ items, codec.Survives a := by
  simp only [Survives, list, Document.view_list]
  induction items with
  | nil => simp
  | cons a items ih =>
      rw [List.map_cons, List.mapM_cons, List.forall_mem_cons, ← ih]
      cases codec.read (codec.write a) with
      | none => simp
      | some b =>
          cases (items.map codec.write).mapM codec.read with
          | none => simp
          | some rest => simp

omit [Document κ υ] in
theorem Yields.mapM (yields : codec.Yields P) {values : List υ} {items : List α}
    (found : values.mapM codec.read = some items) : ∀ a ∈ items, P a := by
  induction values generalizing items with
  | nil =>
      cases found
      exact List.forall_mem_nil _
  | cons value values ih =>
      rw [List.mapM_cons] at found
      obtain ⟨a, first, found⟩ := Option.bind_eq_some_iff.mp found
      obtain ⟨rest, later, same⟩ := Option.bind_eq_some_iff.mp found
      cases same
      exact List.forall_mem_cons.mpr ⟨yields _ _ first, ih later⟩

theorem Yields.list (yields : codec.Yields P) :
    codec.list.Yields fun items => ∀ a ∈ items, P a := by
  intro value items found
  simp only [Codec.list] at found
  split at found
  · exact yields.mapM found
  · cases found

end Codec

/-! ## Fields -/

/-- A field of a record: its key, what is written for it unless it is left out, and what it
is read from.  `missing` stands in for it in a table without its key, `short` in a list
that ends before it. -/
structure Field (κ : Type u) (υ : Type v) (α : Type w) where
  name : κ
  write : α → Option υ
  read : υ → Option α
  missing : Option α
  short : Option α

namespace Field

variable {field : Field κ υ α} {codec : Codec υ α} {P : α → Prop}

/-- The field of a table that holds this under its key. -/
def found (field : Field κ υ α) : Option υ → Option α
  | some value => field.read value
  | none => field.missing

/-- The field is read back from what is written for it. -/
def Survives (field : Field κ υ α) (a : α) : Prop :=
  field.found (field.write a) = some a

/-- Whatever the field is read as has the property. -/
structure Yields (field : Field κ υ α) (P : α → Prop) : Prop where
  read : ∀ value a, field.read value = some a → P a
  missing : ∀ a, field.missing = some a → P a
  short : ∀ a, field.short = some a → P a

/-- A field that has to be there. -/
def required (name : κ) (codec : Codec υ α) : Field κ υ α where
  name := name
  write a := some (codec.write a)
  read := codec.read
  missing := none
  short := none

/-- A field that is always written and has a default. -/
def defaulted (name : κ) (codec : Codec υ α) (default : α) : Field κ υ α where
  name := name
  write a := some (codec.write a)
  read := codec.read
  missing := some default
  short := some default

@[simp]
theorem name_required (name : κ) (codec : Codec υ α) : (required name codec).name = name :=
  rfl

@[simp]
theorem name_defaulted (name : κ) (codec : Codec υ α) (default : α) :
    (defaulted name codec default).name = name :=
  rfl

@[simp]
theorem survives_required (name : κ) (codec : Codec υ α) (a : α) :
    (required name codec).Survives a ↔ codec.Survives a :=
  Iff.rfl

@[simp]
theorem survives_defaulted (name : κ) (codec : Codec υ α) (default a : α) :
    (defaulted name codec default).Survives a ↔ codec.Survives a :=
  Iff.rfl

theorem yields_required (name : κ) (yields : codec.Yields P) :
    (required name codec).Yields P where
  read := yields
  missing a absent := by cases absent
  short a absent := by cases absent

variable [Document κ υ]

/-- A field that is left out if there is nothing to write, and may be null. -/
def optional (name : κ) (codec : Codec υ α) : Field κ υ (Option α) where
  name := name
  write a := a.map codec.write
  read value := if Document.isNull value then some none else (codec.read value).map some
  missing := some none
  short := some none

@[simp]
theorem name_optional (name : κ) (codec : Codec υ α) : (optional name codec).name = name :=
  rfl

/-- What is written for an optional field must not look like null. -/
theorem survives_optional (name : κ) (codec : Codec υ α)
    (present : ∀ a, Document.isNull (codec.write a) = false) (a : Option α) :
    (optional name codec).Survives a ↔ ∀ held, a = some held → codec.Survives held := by
  cases a with
  | none => simp [Survives, optional, found]
  | some held => simp [Survives, optional, found, present, Codec.Survives]

theorem yields_optional (name : κ) (yields : codec.Yields P) :
    (optional name codec).Yields fun a => ∀ held, a = some held → P held where
  read value a found := by
    simp only [optional] at found
    split at found
    · cases found
      intro held same
      cases same
    · obtain ⟨b, held, rfl⟩ := Option.map_eq_some_iff.mp found
      rintro _ ⟨⟩
      exact yields _ _ held
  missing a same := by
    cases same
    intro held same
    cases same
  short a same := by
    cases same
    intro held same
    cases same

end Field

/-! ## Records -/

/-- The fields of a record in their order.  Each has a key of its own, and no other key
matters to the reader. -/
structure Record (κ : Type u) (υ : Type v) (α : Type w) where
  names : List κ
  write : α → List (κ × υ)
  named : (κ → Option υ) → Option α
  listed : List υ → Option (α × List υ)
  distinct : names.Nodup
  written : ∀ a, ∀ entry ∈ write a, entry.1 ∈ names
  concerns : ∀ find other, (∀ name ∈ names, find name = other name) → named find = named other

namespace Record

/-- No field. -/
def done : Record κ υ Unit where
  names := []
  write _ := []
  named _ := some ⟨⟩
  listed values := some (⟨⟩, values)
  distinct := List.nodup_nil
  written _ entry mem := by cases mem
  concerns _ _ _ := rfl

/-- A field before the others. -/
def cons (field : Field κ υ α) (rest : Record κ υ β)
    (fresh : field.name ∉ rest.names := by simp) : Record κ υ (α × β) where
  names := field.name :: rest.names
  write both := ((field.write both.1).map fun value => (field.name, value)).toList ++
    rest.write both.2
  named find := (field.found (find field.name)).bind fun a =>
    (rest.named find).map fun b => (a, b)
  listed
    | [] => field.short.bind fun a => (rest.listed []).map fun found => ((a, found.1), found.2)
    | value :: values => (field.read value).bind fun a =>
        (rest.listed values).map fun found => ((a, found.1), found.2)
  distinct := List.nodup_cons.mpr ⟨fresh, rest.distinct⟩
  written both entry mem := by
    rcases List.mem_append.mp mem with own | later
    · obtain ⟨value, -, rfl⟩ := Option.map_eq_some_iff.mp (Option.mem_toList.mp own)
      exact List.mem_cons_self
    · exact List.mem_cons_of_mem _ (rest.written _ _ later)
  concerns find other same := by
    rw [same _ List.mem_cons_self,
      rest.concerns find other fun name mem => same name (List.mem_cons_of_mem _ mem)]

/-- The same record in another guise. -/
def as (record : Record κ υ α) (guise : α ≃ β) : Record κ υ β where
  names := record.names
  write b := record.write (guise.symm b)
  named find := (record.named find).map guise
  listed values := (record.listed values).map fun found => (guise found.1, found.2)
  distinct := record.distinct
  written b := record.written (guise.symm b)
  concerns find other same := by
    rw [record.concerns find other same]

variable {record : Record κ υ α} {field : Field κ υ α} {rest : Record κ υ β} {P : α → Prop}
  {Q : β → Prop}

@[simp]
theorem names_done : (done : Record κ υ Unit).names = [] :=
  rfl

@[simp]
theorem names_cons (fresh : field.name ∉ rest.names) :
    (cons field rest fresh).names = field.name :: rest.names :=
  rfl

@[simp]
theorem names_as (guise : α ≃ β) : (record.as guise).names = record.names :=
  rfl

/-- A single field. -/
def single (field : Field κ υ α) : Record κ υ α :=
  (cons field (done : Record κ υ Unit)).as
    ⟨Prod.fst, fun a => (a, ⟨⟩), fun _ => rfl, fun _ => rfl⟩

@[simp]
theorem names_single : (single field).names = [field.name] :=
  rfl

/-- Whatever the record is read as has the property. -/
structure Yields (record : Record κ υ α) (P : α → Prop) : Prop where
  named : ∀ find a, record.named find = some a → P a
  listed : ∀ values a left, record.listed values = some (a, left) → P a

theorem yields_done : (done : Record κ υ Unit).Yields fun _ => True where
  named _ _ _ := trivial
  listed _ _ _ _ := trivial

theorem yields_cons (fresh : field.name ∉ rest.names) (first : field.Yields P)
    (others : rest.Yields Q) :
    (cons field rest fresh).Yields fun both => P both.1 ∧ Q both.2 where
  named find both found := by
    obtain ⟨a, first', found⟩ := Option.bind_eq_some_iff.mp found
    obtain ⟨b, others', rfl⟩ := Option.map_eq_some_iff.mp found
    refine ⟨?_, others.named _ _ others'⟩
    cases at' : find field.name with
    | none =>
        rw [at'] at first'
        exact first.missing _ first'
    | some value =>
        rw [at'] at first'
        exact first.read _ _ first'
  listed values both left found := by
    cases values with
    | nil =>
        obtain ⟨a, first', found⟩ := Option.bind_eq_some_iff.mp found
        obtain ⟨b, others', same⟩ := Option.map_eq_some_iff.mp found
        cases same
        exact ⟨first.short _ first', others.listed _ _ _ others'⟩
    | cons value values =>
        obtain ⟨a, first', found⟩ := Option.bind_eq_some_iff.mp found
        obtain ⟨b, others', same⟩ := Option.map_eq_some_iff.mp found
        cases same
        exact ⟨first.read _ _ first', others.listed _ _ _ others'⟩

theorem Yields.as (yields : record.Yields P) (guise : α ≃ β) (same : ∀ a, P a → Q (guise a)) :
    (record.as guise).Yields Q where
  named find b found := by
    obtain ⟨a, held, rfl⟩ := Option.map_eq_some_iff.mp found
    exact same a (yields.named _ _ held)
  listed values b left found := by
    obtain ⟨⟨a, others⟩, held, same'⟩ := Option.map_eq_some_iff.mp found
    cases same'
    exact same a (yields.listed _ _ _ held)

variable [DecidableEq κ]

/-- The record is read back from the table that is written for it. -/
def Survives (record : Record κ υ α) (a : α) : Prop :=
  record.named (fun name => (record.write a).lookup name) = some a

theorem lookup_write_of_notMem {name : κ} (a : α) (foreign : name ∉ record.names) :
    (record.write a).lookup name = none := by
  rw [List.lookup_eq_none_iff]
  intro entry mem
  refine bne_iff_ne.mpr ?_
  rintro rfl
  exact foreign (record.written a entry mem)

theorem lookup_cons_self (fresh : field.name ∉ rest.names) (both : α × β) :
    ((cons field rest fresh).write both).lookup field.name = field.write both.1 := by
  rw [cons, List.lookup_append, lookup_write_of_notMem _ fresh, Option.or_none]
  cases field.write both.1 with
  | none => rfl
  | some value => simp

theorem lookup_cons_of_mem (fresh : field.name ∉ rest.names) (both : α × β) {name : κ}
    (mem : name ∈ rest.names) :
    ((cons field rest fresh).write both).lookup name = (rest.write both.2).lookup name := by
  have ne : name ≠ field.name := by
    rintro rfl
    exact fresh mem
  rw [cons, List.lookup_append]
  cases field.write both.1 with
  | none => simp
  | some value => simp [List.lookup_cons, beq_eq_false_iff_ne.mpr ne]

@[simp]
theorem survives_done (a : Unit) : (done : Record κ υ Unit).Survives a :=
  rfl

@[simp]
theorem survives_cons (fresh : field.name ∉ rest.names) (both : α × β) :
    (cons field rest fresh).Survives both ↔ field.Survives both.1 ∧ rest.Survives both.2 := by
  have others := rest.concerns
    (fun name => ((cons field rest fresh).write both).lookup name)
    (fun name => (rest.write both.2).lookup name)
    fun name mem => lookup_cons_of_mem fresh both mem
  rw [Survives, Field.Survives, Survives, ← others, ← lookup_cons_self fresh both]
  simp only [cons, Option.bind_eq_some_iff, Option.map_eq_some_iff]
  constructor
  · rintro ⟨a, first, b, later, rfl⟩
    exact ⟨first, later⟩
  · rintro ⟨first, later⟩
    exact ⟨both.1, first, both.2, later, rfl⟩

@[simp]
theorem survives_as (guise : α ≃ β) (b : β) :
    (record.as guise).Survives b ↔ record.Survives (guise.symm b) := by
  simp only [Survives, as, Option.map_eq_some_iff]
  constructor
  · rintro ⟨a, found, rfl⟩
    rw [guise.symm_apply_apply] at found ⊢
    exact found
  · intro found
    exact ⟨_, found, guise.apply_symm_apply b⟩

@[simp]
theorem survives_single (a : α) : (single field).Survives a ↔ field.Survives a := by
  simp [single]

variable [Document κ υ]

/-- A record as a value: a table or a list. -/
def codec (record : Record κ υ α) : Codec υ α where
  write a := Document.table (record.write a)
  read value :=
    match Document.view value with
    | .entries entries => record.named fun name => entries.lookup name
    | .items items => (record.listed items).bind fun found =>
        if found.2.isEmpty then some found.1 else none
    | .leaf => none

@[simp]
theorem survives_codec (a : α) : record.codec.Survives a ↔ record.Survives a := by
  simp only [Codec.Survives, codec, Document.view_table]
  rfl

theorem Yields.codec (yields : record.Yields P) : record.codec.Yields P := by
  intro value a found
  simp only [Record.codec] at found
  split at found
  · exact yields.named _ _ found
  · obtain ⟨⟨b, left⟩, held, found⟩ := Option.bind_eq_some_iff.mp found
    split at found
    · cases found
      exact yields.listed _ _ _ held
    · cases found
  · cases found

/-- A table is read by the record's own keys: in whatever order they stand, and whatever
else is in it. -/
theorem Survives.read_table {a : α} (survives : record.Survives a) {entries : List (κ × υ)}
    (same : ∀ name ∈ record.names, entries.lookup name = (record.write a).lookup name) :
    record.codec.read (Document.table entries) = some a := by
  simp only [Record.codec, Document.view_table]
  exact (record.concerns _ _ same).trans survives

end Record

/-! ## Tagged unions -/

/-- One of several records, each under a label of its own. -/
structure Tagged (κ : Type u) (υ : Type v) (α : Type w) where
  labels : List κ
  names : List κ
  label : α → κ
  write : α → List (κ × υ)
  named : κ → (κ → Option υ) → Option α
  listed : κ → List υ → Option (α × List υ)
  labelled : ∀ a, label a ∈ labels
  concerns : ∀ label find other, (∀ name ∈ names, find name = other name) →
    named label find = named label other

namespace Tagged

variable [DecidableEq κ]

/-- One record. -/
def variant (label : κ) (record : Record κ υ α) : Tagged κ υ α where
  labels := [label]
  names := record.names
  label _ := label
  write := record.write
  named given find := if given = label then record.named find else none
  listed given values := if given = label then record.listed values else none
  labelled _ := List.mem_singleton_self label
  concerns given find other same := by
    rw [record.concerns find other same]

/-- A record of these or of those. -/
def or (left : Tagged κ υ α) (right : Tagged κ υ β)
    (_apart : ∀ label ∈ left.labels, label ∉ right.labels := by decide) :
    Tagged κ υ (α ⊕ β) where
  labels := left.labels ++ right.labels
  names := left.names ++ right.names
  label := Sum.elim left.label right.label
  write := Sum.elim left.write right.write
  named given find :=
    if given ∈ left.labels then (left.named given find).map Sum.inl
    else (right.named given find).map Sum.inr
  listed given values :=
    if given ∈ left.labels then
      (left.listed given values).map fun found => (.inl found.1, found.2)
    else (right.listed given values).map fun found => (.inr found.1, found.2)
  labelled
    | .inl a => List.mem_append_left _ (left.labelled a)
    | .inr b => List.mem_append_right _ (right.labelled b)
  concerns given find other same := by
    rw [left.concerns given find other fun name mem => same name (List.mem_append_left _ mem),
      right.concerns given find other fun name mem => same name (List.mem_append_right _ mem)]

variable {tagged left : Tagged κ υ α} {right : Tagged κ υ β} {record : Record κ υ α}
  {P : α → Prop} {Q : β → Prop}

@[simp]
theorem labels_variant (label : κ) : (variant label record).labels = [label] :=
  rfl

@[simp]
theorem names_variant (label : κ) : (variant label record).names = record.names :=
  rfl

@[simp]
theorem labels_or (apart : ∀ label ∈ left.labels, label ∉ right.labels) :
    (left.or right apart).labels = left.labels ++ right.labels :=
  rfl

@[simp]
theorem names_or (apart : ∀ label ∈ left.labels, label ∉ right.labels) :
    (left.or right apart).names = left.names ++ right.names :=
  rfl

/-- The record is read back under its label. -/
def Survives (tagged : Tagged κ υ α) (a : α) : Prop :=
  tagged.named (tagged.label a) (fun name => (tagged.write a).lookup name) = some a

@[simp]
theorem survives_variant (label : κ) (a : α) :
    (variant label record).Survives a ↔ record.Survives a := by
  simp [Survives, variant, Record.Survives]

@[simp]
theorem survives_inl (apart : ∀ label ∈ left.labels, label ∉ right.labels) (a : α) :
    (left.or right apart).Survives (.inl a) ↔ left.Survives a := by
  simp [Survives, or, left.labelled a]

@[simp]
theorem survives_inr (apart : ∀ label ∈ left.labels, label ∉ right.labels) (b : β) :
    (left.or right apart).Survives (.inr b) ↔ right.Survives b := by
  have foreign : right.label b ∉ left.labels := fun mem => apart _ mem (right.labelled b)
  simp [Survives, or, foreign]

variable [Document κ υ]

/-- A tagged union as a value.  In a list the label comes first. -/
def codec (tag : κ) (tagged : Tagged κ υ α) (_fresh : tag ∉ tagged.names := by decide) :
    Codec υ α where
  write a := Document.table ((tag, Document.key (tagged.label a)) :: tagged.write a)
  read value :=
    match Document.view value with
    | .entries entries => ((entries.lookup tag).bind Document.asKey).bind fun label =>
        tagged.named label fun name => entries.lookup name
    | .items (first :: items) => (Document.asKey first).bind fun label =>
        (tagged.listed label items).bind fun found =>
          if found.2.isEmpty then some found.1 else none
    | _ => none

@[simp]
theorem survives_codec {tag : κ} (fresh : tag ∉ tagged.names) (a : α) :
    (tagged.codec tag fresh).Survives a ↔ tagged.Survives a := by
  have same := tagged.concerns (tagged.label a)
    (fun name => ((tag, Document.key (tagged.label a)) :: tagged.write a).lookup name)
    (fun name => (tagged.write a).lookup name) fun name mem => by
      have ne : name ≠ tag := by
        rintro rfl
        exact fresh mem
      simp only [List.lookup_cons, beq_eq_false_iff_ne.mpr ne]
  simp only [Codec.Survives, codec, Document.view_table, List.lookup_cons_self,
    Option.bind_some, Document.asKey_key]
  rw [same, Survives]

end Tagged

end StratumBridge.Data
