import Mathlib.Data.List.Forall2
import Mathlib.Tactic.Common
import NotebookExport.Json.Decode
import NotebookExport.Json.Reader

/-!
# Records in any spelling

A JSON value has the same meaning wherever it stands in a text, and a record can be written as an
object, with its fields in any order and other members between them, or as an array of its fields.
The main statement is that a form that takes in every field by itself, whatever is known already,
takes in a whole record in whatever way it is written.
-/

namespace NotebookExport.Json

/-! ### Values without places -/

/-- What a JSON value says, wherever it stands. -/
inductive Datum where
  | null
  | bool (value : Bool)
  | number (value : Number)
  | string (value : String)
  /-- A number out of all bounds, or a text with one half of a surrogate pair. -/
  | unusable
  | array (elements : List Datum)
  | object (members : List (String × Datum))

mutual

/-- What a value says, if there is no break in it. -/
def Value.datum? : Value → Option Datum
  | .null _ => some .null
  | .bool value _ => some (.bool value)
  | .number (.ok value) _ => some (.number value)
  | .number (.error _) _ => some .unusable
  | .string (.ok value) _ => some (.string value)
  | .string (.error _) _ => some .unusable
  | .array _ elements => elements.data?.map .array
  | .object _ members => members.data?.map .object
  | .broken _ => none

/-- What the elements of an array say. -/
def Elements.data? : Elements → Option (List Datum)
  | .stop (.ok _) => some []
  | .stop (.error _) => none
  | .next _ value _ rest =>
    value.datum?.bind fun datum => rest.data?.map fun data => datum :: data

/-- What the members of an object say. -/
def Members.data? : Members → Option (List (String × Datum))
  | .stop (.ok _) => some []
  | .stop (.error _) => none
  | .next (.error _) _ _ _ _ => none
  | .next (.ok key) _ value _ rest =>
    value.datum?.bind fun datum => rest.data?.map fun data => (key, datum) :: data

end

/-- What a document says, if there is nothing wrong with its syntax. -/
def Document.datum? (document : Document) : Option Datum :=
  match document.trailing with
  | some _ => none
  | none => document.value.datum?

variable {elements : Elements} {members : Members} {value : Value} {document : Document}
  {datum : Datum} {data : List Datum} {pairs : List (String × Datum)}

lemma Document.datum?_eq_some_iff :
    document.datum? = some datum ↔
      document.trailing = none ∧ document.value.datum? = some datum := by
  unfold datum?
  split <;> simp_all

/-- What says something is written in the one form for it. -/
lemma Value.form_of_datum? (h : value.datum? = some datum) :
    match datum with
    | .null => ∃ place, value = .null place
    | .bool b => ∃ place, value = .bool b place
    | .number n => ∃ place, value = .number (.ok n) place
    | .string text => ∃ place, value = .string (.ok text) place
    | .unusable => True
    | .array data => ∃ start elements, value = .array start elements ∧ elements.data? = some data
    | .object pairs =>
      ∃ start members, value = .object start members ∧ members.data? = some pairs := by
  match value with
  | .null place | .bool _ place | .number (.ok _) place | .string (.ok _) place =>
    cases h
    exact ⟨place, rfl⟩
  | .number (.error _) _ | .string (.error _) _ =>
    cases h
    trivial
  | .array start elements =>
    obtain ⟨data, hdata, rfl⟩ := Option.map_eq_some_iff.mp h
    exact ⟨start, elements, rfl, hdata⟩
  | .object start members =>
    obtain ⟨pairs, hpairs, rfl⟩ := Option.map_eq_some_iff.mp h
    exact ⟨start, members, rfl, hpairs⟩
  | .broken _ => cases h

lemma Elements.data?_eq_nil_iff :
    elements.data? = some [] ↔ ∃ place, elements = .stop (.ok place) := by
  cases elements with
  | stop result => cases result <;> simp [data?]
  | next start value left rest => simp [data?, Option.bind_eq_some_iff]

lemma Elements.data?_eq_cons_iff :
    elements.data? = some (datum :: data) ↔
      ∃ start value left rest, elements = .next start value left rest ∧
        value.datum? = some datum ∧ rest.data? = some data := by
  cases elements with
  | stop result => cases result <;> simp [data?]
  | next start value left rest => simp [data?, Option.bind_eq_some_iff]

lemma Members.data?_eq_nil_iff :
    members.data? = some [] ↔ ∃ place, members = .stop (.ok place) := by
  cases members with
  | stop result => cases result <;> simp [data?]
  | next key keyLeft value left rest => cases key <;> simp [data?, Option.bind_eq_some_iff]

lemma Members.data?_eq_cons_iff {key : String} :
    members.data? = some ((key, datum) :: pairs) ↔
      ∃ keyLeft value left rest, members = .next (.ok key) keyLeft value left rest ∧
        value.datum? = some datum ∧ rest.data? = some pairs := by
  cases members with
  | stop result => cases result <;> simp [data?]
  | next key' keyLeft value left rest =>
    cases key' with
    | error fault => simp [data?]
    | ok key' =>
      simp only [data?, Option.bind_eq_some_iff, Option.map_eq_some_iff]
      constructor
      · rintro ⟨datum', hdatum, pairs', hpairs, heq⟩
        cases heq
        exact ⟨keyLeft, value, left, rest, rfl, hdatum, hpairs⟩
      · rintro ⟨_, _, _, _, heq, hdatum, hpairs⟩
        cases heq
        exact ⟨datum, hdatum, pairs, hpairs, rfl⟩

mutual

/-- A value that says something can be passed over. -/
lemma Value.passOver_eq_none (value : Value) {datum : Datum} (h : value.datum? = some datum) :
    value.passOver = none := by
  match value with
  | .null _ | .bool _ _ | .number _ _ | .string _ _ => rfl
  | .array _ elements =>
    obtain ⟨data, hdata, -⟩ := Option.map_eq_some_iff.mp h
    exact Elements.passOver_eq_none elements hdata
  | .object _ members =>
    obtain ⟨pairs, hpairs, -⟩ := Option.map_eq_some_iff.mp h
    exact Members.passOver_eq_none members hpairs
  | .broken _ => simp [Value.datum?] at h

lemma Elements.passOver_eq_none (elements : Elements) {data : List Datum}
    (h : elements.data? = some data) : elements.passOver = none := by
  match elements with
  | .stop (.ok _) => rfl
  | .stop (.error _) => simp [Elements.data?] at h
  | .next _ value _ rest =>
    obtain ⟨datum, hdatum, hrest⟩ := Option.bind_eq_some_iff.mp h
    obtain ⟨data, hdata, -⟩ := Option.map_eq_some_iff.mp hrest
    rw [Elements.passOver, Value.passOver_eq_none value hdatum,
      Elements.passOver_eq_none rest hdata]
    rfl

lemma Members.passOver_eq_none (members : Members) {pairs : List (String × Datum)}
    (h : members.data? = some pairs) : members.passOver = none := by
  match members with
  | .stop (.ok _) => rfl
  | .stop (.error _) | .next (.error _) _ _ _ _ => simp [Members.data?] at h
  | .next (.ok _) _ value _ rest =>
    obtain ⟨datum, hdatum, hrest⟩ := Option.bind_eq_some_iff.mp h
    obtain ⟨pairs, hpairs, -⟩ := Option.map_eq_some_iff.mp hrest
    rw [Members.passOver, Value.passOver_eq_none value hdatum,
      Members.passOver_eq_none rest hpairs]
    rfl

end

/-! ### Lists -/

/-- A list is read element by element. -/
lemma Decoder.exists_elements {α β : Type} {decode : Decoder β} {Spells : α → Datum → Prop}
    {Means : α → β → Prop}
    (hdecode : ∀ {a datum value}, Spells a datum → value.datum? = some datum →
      ∃ b, decode value = .ok b ∧ Means a b)
    {as : List α} (hspells : List.Forall₂ Spells as data) (hdata : elements.data? = some data) :
    ∃ bs, Decoder.elements decode elements = .ok bs ∧ List.Forall₂ Means as bs := by
  induction hspells generalizing elements with
  | nil =>
    obtain ⟨place, rfl⟩ := Elements.data?_eq_nil_iff.mp hdata
    exact ⟨[], rfl, .nil⟩
  | cons hfirst _ ih =>
    obtain ⟨start, value, left, rest, rfl, hvalue, hrest⟩ := Elements.data?_eq_cons_iff.mp hdata
    obtain ⟨b, hb, hmeans⟩ := hdecode hfirst hvalue
    obtain ⟨bs, hbs, hall⟩ := ih hrest
    refine ⟨b :: bs, ?_, .cons hmeans hall⟩
    simp [Decoder.elements, hb, hbs, Except.bind, Except.map]

/-! ### Records -/

/-- The elements of an array that stands for a record: its fields in their order, of which the last
may be left out. `IsField` tells how a field may be written, and whether it may be left out. -/
inductive SpellsFields (IsField : String → Option Datum → Prop) :
    List String → List Datum → Prop
  | left {fields : List String} (h : ∀ field ∈ fields, IsField field none) :
      SpellsFields IsField fields []
  | next {field : String} {fields : List String} {datum : Datum} {data : List Datum}
      (h : IsField field (some datum)) (hrest : SpellsFields IsField fields data) :
      SpellsFields IsField (field :: fields) (datum :: data)

/-- The ways of writing a record: an object in which no field stands twice, with any other members
and in any order, or an array. -/
inductive SpellsRecord (fields : List String) (IsField : String → Option Datum → Prop) :
    Datum → Prop
  | object {pairs : List (String × Datum)}
      (honce : ((pairs.map Prod.fst).filter fun key => key ∈ fields).Nodup)
      (hfields : ∀ field ∈ fields, IsField field (pairs.lookup field)) :
      SpellsRecord fields IsField (.object pairs)
  | array {data : List Datum} (h : SpellsFields IsField fields data) :
      SpellsRecord fields IsField (.array data)

namespace RecordForm

variable {σ : Type} {form : RecordForm σ} {IsField : String → Option Datum → Prop}
  {Known : List String → σ → Prop}

/-- A form takes in every field that is written as told. `Known` tells what is known of the record
when some fields have been taken in. -/
structure TakesIn (form : RecordForm σ) (IsField : String → Option Datum → Prop)
    (Known : List String → σ → Prop) : Prop where
  empty : Known [] form.empty
  set : ∀ {seen record field value datum} (left : Place), field ∈ form.fields → field ∉ seen →
    Known seen record → value.datum? = some datum → IsField field (some datum) →
    ∃ next, form.set field value left record = .ok next ∧ Known (field :: seen) next
  required : ∀ {field}, form.required = some field → field ∈ form.fields ∧ ¬ IsField field none

/-- Everything is known of a record but of the fields that may be left out. -/
def KnownOf (form : RecordForm σ) (IsField : String → Option Datum → Prop)
    (Known : List String → σ → Prop) (record : σ) : Prop :=
  ∃ seen, Known seen record ∧ ∀ field ∈ form.fields, field ∈ seen ∨ IsField field none

/-- The members of an object are taken in one by one, whatever their order. -/
lemma TakesIn.exists_members (h : form.TakesIn IsField Known) {seen : List String} {record : σ}
    (hdata : members.data? = some pairs) (hknown : Known seen record)
    (honce : ((pairs.map Prod.fst).filter fun key => key ∈ form.fields).Nodup)
    (hseen : ∀ field ∈ form.fields, field ∈ seen → field ∉ pairs.map Prod.fst)
    (hfields : ∀ field ∈ form.fields, field ∉ seen → IsField field (pairs.lookup field)) :
    ∃ next, form.members seen record members = .ok next ∧ form.KnownOf IsField Known next := by
  induction pairs generalizing members seen record with
  | nil =>
    obtain ⟨place, rfl⟩ := Members.data?_eq_nil_iff.mp hdata
    refine ⟨record, ?_, seen, hknown, fun field hfield => ?_⟩
    · unfold RecordForm.members
      cases hrequired : form.required with
      | none => rfl
      | some field =>
        obtain ⟨hfield, hneeded⟩ := h.required hrequired
        have hthere : field ∈ seen := by
          by_contra hnot
          exact hneeded (hfields field hfield hnot)
        simp [hthere]
    · by_cases hthere : field ∈ seen
      · exact .inl hthere
      · exact .inr (hfields field hfield hthere)
  | cons pair pairs ih =>
    obtain ⟨key, datum⟩ := pair
    obtain ⟨keyLeft, value, left, rest, rfl, hvalue, hrest⟩ := Members.data?_eq_cons_iff.mp hdata
    by_cases hkey : key ∈ form.fields
    · have hnew : key ∉ seen := fun hthere => hseen key hkey hthere (by simp)
      have hwritten : IsField key (some datum) := by simpa using hfields key hkey hnew
      obtain ⟨next, hset, hnext⟩ := h.set left hkey hnew hknown hvalue hwritten
      rw [List.map_cons, List.filter_cons_of_pos (by simpa using hkey), List.nodup_cons] at honce
      obtain ⟨last, hlast, hall⟩ := ih hrest hnext honce.2
        (fun field hfield hthere => by
          rcases List.mem_cons.mp hthere with rfl | hthere
          · exact fun hmem => honce.1 (List.mem_filter.mpr ⟨hmem, by simpa using hkey⟩)
          · exact fun hmem => hseen field hfield hthere (List.mem_cons_of_mem _ hmem))
        (fun field hfield hthere => by
          have hother : (field == key) = false :=
            beq_eq_false_iff_ne.mpr fun heq => hthere (heq ▸ List.mem_cons_self)
          have hfree : field ∉ seen := fun hmem => hthere (List.mem_cons_of_mem _ hmem)
          simpa [List.lookup_cons, hother] using hfields field hfield hfree)
      refine ⟨last, ?_, hall⟩
      simpa [RecordForm.members, hkey, hnew, hset] using hlast
    · rw [List.map_cons, List.filter_cons_of_neg (by simpa using hkey)] at honce
      obtain ⟨last, hlast, hall⟩ := ih hrest hknown honce
        (fun field hfield hthere hmem => hseen field hfield hthere (List.mem_cons_of_mem _ hmem))
        (fun field hfield hthere => by
          have hother : (field == key) = false :=
            beq_eq_false_iff_ne.mpr fun heq => hkey (heq ▸ hfield)
          simpa [List.lookup_cons, hother] using hfields field hfield hthere)
      refine ⟨last, ?_, hall⟩
      simpa [RecordForm.members, hkey, value.passOver_eq_none hvalue] using hlast

/-- The elements of an array are taken in one by one. -/
lemma TakesIn.exists_elements (h : form.TakesIn IsField Known) {fields seen : List String}
    {record : σ} (hspells : SpellsFields IsField fields data)
    (hdata : elements.data? = some data) (hknown : Known seen record) (honce : fields.Nodup)
    (hfields : ∀ field ∈ fields, field ∈ form.fields ∧ field ∉ seen)
    (hseen : ∀ field ∈ form.fields, field ∈ seen ∨ field ∈ fields) :
    ∃ next, form.elements fields record elements = .ok next ∧ form.KnownOf IsField Known next := by
  induction hspells generalizing elements seen record with
  | left hleft =>
    obtain ⟨place, rfl⟩ := Elements.data?_eq_nil_iff.mp hdata
    refine ⟨record, ?_, seen, hknown, fun field hfield =>
      (hseen field hfield).imp_right (hleft field)⟩
    rename_i fields
    cases fields with
    | nil => rfl
    | cons field fields =>
      have hfree : form.required ≠ some field := fun hrequired =>
        (h.required hrequired).2 (hleft field List.mem_cons_self)
      simp [RecordForm.elements, hfree]
  | next hfirst _ ih =>
    obtain ⟨start, value, left, rest, rfl, hvalue, hrest⟩ := Elements.data?_eq_cons_iff.mp hdata
    rename_i field fields datum data _
    rw [List.nodup_cons] at honce
    obtain ⟨hfield, hnew⟩ := hfields field List.mem_cons_self
    obtain ⟨next, hset, hnext⟩ := h.set left hfield hnew hknown hvalue hfirst
    obtain ⟨last, hlast, hall⟩ := ih hrest hnext honce.2
      (fun field' hfield' => by
        obtain ⟨hform, hfree⟩ := hfields field' (List.mem_cons_of_mem _ hfield')
        have hother : field' ≠ field := fun heq => honce.1 (heq ▸ hfield')
        exact ⟨hform, by simp [hother, hfree]⟩)
      (fun field' hfield' => by
        have := hseen field' hfield'
        simp only [List.mem_cons] at this ⊢
        tauto)
    exact ⟨last, by simpa [RecordForm.elements, hset] using hlast, hall⟩

/-- A record is taken in, in whatever way it is written. -/
theorem TakesIn.exists_decode (h : form.TakesIn IsField Known) (honce : form.fields.Nodup)
    (hspells : SpellsRecord form.fields IsField datum) (hvalue : value.datum? = some datum) :
    ∃ record, form.decode value = .ok record ∧ form.KnownOf IsField Known record := by
  cases hspells with
  | object hpairs hfields =>
    obtain ⟨start, members, rfl, hdata⟩ := Value.form_of_datum? hvalue
    exact h.exists_members hdata h.empty hpairs (by simp) fun field hfield _ => hfields field hfield
  | array hdata =>
    obtain ⟨start, elements, rfl, helements⟩ := Value.form_of_datum? hvalue
    exact h.exists_elements hdata helements h.empty honce (by simp) fun field hfield => .inr hfield

end RecordForm

end NotebookExport.Json
