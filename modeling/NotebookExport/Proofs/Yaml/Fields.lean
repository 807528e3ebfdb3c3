import NotebookExport.Proofs.Yaml.Decoding

/-!
# What the fields of a mapping hold

The fields of a mapping are told from its events alone: a key, and a value that ends where all that
begins in it has ended. Decoders keep to this: each takes one node. So a record that is decoded, in
whatever order its fields come and whichever are left out, has in each field what the decoder of
that field makes of its own value, and nothing in the others.
-/

namespace NotebookExport.Yaml

variable {α β σ : Type}

/-! ### Nodes -/

/-- The events behind a node; `depth` tells how many collections are open before it. -/
def behind : Nat → List (Event × Option Nat) → List (Event × Option Nat)
  | _, [] => []
  | depth, e :: rest =>
    match e.1.kind with
    | .sequenceStart | .mappingStart => behind (depth + 1) rest
    | .sequenceEnd | .mappingEnd => if depth ≤ 1 then rest else behind (depth - 1) rest
    | .alias _ | .scalar _ => if depth = 0 then rest else behind depth rest

/-- What is before ends, `depth` collections being open, where what is after begins. -/
structure Closes (depth : Nat) (before after : List (Event × Option Nat)) : Prop where
  eq : behind depth before = after
  /-- The same with further collections around it. -/
  inner (further : Nat) : behind (further + 1 + depth) before = behind (further + 1) after
  subset : after ⊆ before

namespace Closes

variable {e : Event × Option Nat} {before between after rest : List (Event × Option Nat)}

lemma scalar {s : Scalar} (h : e.1.kind = .scalar s) : Closes 0 (e :: rest) rest :=
  ⟨by simp [behind, h], fun further => by simp [behind, h], List.subset_cons_self _ _⟩

lemma reference {name : String} (h : e.1.kind = .alias name) : Closes 0 (e :: rest) rest :=
  ⟨by simp [behind, h], fun further => by simp [behind, h], List.subset_cons_self _ _⟩

lemma collection (h : e.1.kind = .sequenceStart ∨ e.1.kind = .mappingStart)
    (hrest : Closes 1 rest after) : Closes 0 (e :: rest) after := by
  refine ⟨?_, fun further => ?_, List.subset_cons_of_subset _ hrest.subset⟩
  · rw [← hrest.eq]
    rcases h with h | h <;> simp [behind, h]
  · rw [← hrest.inner further]
    rcases h with h | h <;> simp [behind, h]

lemma last (h : e.1.kind = .sequenceEnd ∨ e.1.kind = .mappingEnd) : Closes 1 (e :: rest) rest :=
  ⟨by rcases h with h | h <;> simp [behind, h],
    fun further => by rcases h with h | h <;> simp [behind, h], List.subset_cons_self _ _⟩

/-- A collection goes on behind a node in it. -/
lemma next (h : Closes 0 before between) (hrest : Closes 1 between after) :
    Closes 1 before after :=
  ⟨(h.inner 0).trans hrest.eq, fun further => (h.inner (further + 1)).trans (hrest.inner further),
    List.Subset.trans hrest.subset h.subset⟩

end Closes

/-- Whether only references lead elsewhere. -/
def AreResolved (events : List (Event × Option Nat)) : Prop :=
  ∀ e ∈ events, e.2.isSome → ∃ name, e.1.kind = .alias name

lemma Document.areResolved_resolve (count : Nat) (names : List (String × Nat))
    (events : List Event) : AreResolved (resolve count names events).1 := by
  induction events generalizing count names with
  | nil => simp [resolve, AreResolved]
  | cons event events ih =>
    unfold resolve
    extract_lets known
    split
    case h_1 name hkind =>
      cases known.lookup name with
      | none => simp [AreResolved]
      | some target => exact List.forall_mem_cons.mpr ⟨fun _ => ⟨name, hkind⟩, ih _ _⟩
    case h_2 => exact List.forall_mem_cons.mpr ⟨by simp, ih _ _⟩

lemma Document.areResolved_ofText (text : String) : AreResolved (ofText text).events :=
  areResolved_resolve 0 [] _

namespace Place

/-- The event with which the node begins that stands at a place or is referred to there, with the
place behind that event. -/
def node? (p : Place) : Option (Event × Place) :=
  match p.rest with
  | [] => none
  | (event, none) :: rest => some (event, { p with rest := rest })
  | (_, some target) :: _ =>
    match p.document.events.drop target with
    | (event, none) :: inner => some (event, { p with rest := inner })
    | _ => none

/-- Whether only references lead elsewhere, at the place and in its document. -/
structure IsResolved (p : Place) : Prop where
  document : AreResolved p.document.events
  rest : AreResolved p.rest

lemma IsResolved.of_subset {p q : Place} (h : p.IsResolved) (hdocument : q.document = p.document)
    (hrest : q.rest ⊆ p.rest) : q.IsResolved :=
  ⟨hdocument ▸ h.document, fun e he => h.rest e (hrest he)⟩

end Place

/-! ### Decoders -/

/-- Whether a decoder takes exactly one node. -/
def Decoder.TakesNode (decode : Decoder α) : Prop :=
  ∀ (p : Place) (value : α) (rest : List (Event × Option Nat)), p.IsResolved →
    decode p = .ok (value, rest) → Closes 0 p.rest rest

/-- What a decoder makes of the value at a place. -/
def Decoder.value? (decode : Decoder α) (p : Place) : Option α :=
  (decode p).toOption.map Prod.fst

lemma Decoder.value?_of_eq {decode : Decoder α} {p : Place} {value : α}
    {rest : List (Event × Option Nat)} (h : decode p = .ok (value, rest)) :
    decode.value? p = some value := by
  simp [value?, h, Except.toOption]

namespace Decoder

variable {decode : Decoder α} {p : Place} {value : α} {rest : List (Event × Option Nat)}

/-- Decoding begins with the event of the node; behind a reference it goes on at once. -/
lemma exists_node_of_ofEvent
    {decodeFrom : Place → Event → Except DecodeFault (α × List (Event × Option Nat))}
    (hp : p.IsResolved) (h : ofEvent decodeFrom p = .ok (value, rest)) :
    ∃ event q inner, p.node? = some (event, q) ∧ decodeFrom q event = .ok (value, inner) ∧
      q.IsResolved ∧ (Closes 0 p.rest rest ∨ p.rest = (event, none) :: q.rest ∧ inner = rest) := by
  unfold ofEvent at h
  split at h
  case h_1 => cases h
  case h_2 event tail hrest =>
    refine ⟨event, { p with rest := tail }, rest, by simp [Place.node?, hrest], h, ?_,
      .inr ⟨hrest, rfl⟩⟩
    exact hp.of_subset rfl (by simp [hrest])
  case h_3 reference target tail hrest =>
    split at h
    case h_2 => cases h
    case h_1 event inner hinner =>
      obtain ⟨name, hkind⟩ := hp.rest (reference, some target) (by simp [hrest]) rfl
      cases hdecode : decodeFrom { p with rest := inner } event with
      | error fault => simp [hdecode, Except.map] at h
      | ok result =>
        rw [hdecode, Except.map, Except.ok.injEq, Prod.mk.injEq] at h
        obtain ⟨rfl, rfl⟩ := h
        refine ⟨event, { p with rest := inner }, result.2, by simp [Place.node?, hrest, hinner],
          hdecode, ⟨hp.document, fun e he => hp.document e ?_⟩, .inl ?_⟩
        · exact List.mem_of_mem_drop (hinner ▸ List.mem_cons_of_mem _ he)
        · exact hrest ▸ Closes.reference hkind

lemma takesNode_ofScalar {expected : String} {read : Scalar → Except Misfit α} :
    TakesNode (ofScalar expected read) := by
  intro p value rest hp h
  obtain ⟨event, q, inner, -, hdecode, -, hclosed | ⟨hrest, rfl⟩⟩ := exists_node_of_ofEvent hp h
  · exact hclosed
  · split at hdecode
    case h_1 s hkind =>
      split at hdecode
      case h_1 =>
        obtain ⟨-, rfl⟩ := Prod.mk.inj (Except.ok.inj hdecode)
        exact hrest ▸ Closes.scalar hkind
      case h_2 => cases hdecode
    case h_2 => cases hdecode

/-- Either there is a value, or a scalar that stands for nothing. -/
lemma optional_cases {value : Option α} (hp : p.IsResolved)
    (h : optional decode p = .ok (value, rest)) :
    (∃ found, value = some found ∧ decode p = .ok (found, rest)) ∨
      value = none ∧ Closes 0 p.rest rest ∧
        ∃ s mark anchor q, p.node? = some (⟨.scalar s, mark, anchor⟩, q) := by
  unfold optional at h
  extract_lets something nothing target at h
  have hsomething : something = .ok (value, rest) →
      ∃ found, value = some found ∧ decode p = .ok (found, rest) := by
    intro heq
    cases hresult : decode p with
    | error fault => simp [something, hresult, Except.map] at heq
    | ok result =>
      simp only [something, hresult, Except.map, Except.ok.injEq, Prod.mk.injEq] at heq
      obtain ⟨rfl, rfl⟩ := heq
      exact ⟨result.1, rfl, rfl⟩
  generalize htarget : target = found at h
  split at h
  case h_2 => exact .inl (hsomething h)
  case h_1 s mark anchor tail =>
    -- what stands at the place is this scalar or refers to it
    have hnothing : nothing = .ok (value, rest) → value = none ∧ Closes 0 p.rest rest ∧
        ∃ s mark anchor q, p.node? = some (⟨.scalar s, mark, anchor⟩, q) := by
      intro heq
      obtain ⟨rfl, rfl⟩ := Prod.mk.inj (Except.ok.inj heq)
      rcases hrest : p.rest with _ | ⟨⟨event, _ | reference⟩, others⟩
      · simp [target, hrest] at htarget
      · have hscalar : event = ⟨.scalar s, mark, anchor⟩ := by
          simp only [target, hrest, List.cons.injEq, Prod.mk.injEq] at htarget
          exact htarget.1.1
        exact ⟨rfl, Closes.scalar (s := s) (by rw [hscalar]), s, mark, anchor, _,
          by rw [Place.node?, hrest, hscalar]⟩
      · obtain ⟨name, hkind⟩ := hp.rest (event, some reference) (by simp [hrest]) rfl
        simp only [target, hrest] at htarget
        exact ⟨rfl, Closes.reference hkind, s, mark, anchor, _,
          by simp only [Place.node?, hrest, htarget]; rfl⟩
    cases htag : s.tag
    all_goals
      simp only [htag] at h
      split_ifs at h
      all_goals first | exact .inr (hnothing h) | exact .inl (hsomething h)

lemma takesNode_optional (h : TakesNode decode) : TakesNode (optional decode) := by
  intro p value rest hp hdecode
  obtain ⟨found, -, hfound⟩ | ⟨-, hclosed, -⟩ := optional_cases hp hdecode
  · exact h p found rest hp hfound
  · exact hclosed

/-- The entries of a sequence are taken up to the end of the sequence. -/
lemma closes_entries (h : TakesNode decode) {fuel index : Nat} {values : List α}
    (hp : p.IsResolved) (hentries : entries decode fuel index p = .ok (values, rest)) :
    Closes 1 p.rest rest := by
  induction fuel generalizing p index values with
  | zero => cases hentries
  | succ fuel ih =>
    unfold entries at hentries
    split at hentries
    case h_1 => cases hentries
    case h_2 hrest =>
      obtain ⟨-, rfl⟩ := Prod.mk.inj (Except.ok.inj hentries)
      rw [hrest]
      exact Closes.last (.inl rfl)
    case h_3 =>
      split at hentries
      case h_1 => cases hentries
      case h_2 value after hvalue =>
        have hfirst : Closes 0 p.rest after :=
          h { p with path := p.path.item index } value after ⟨hp.document, hp.rest⟩ hvalue
        cases hothers : entries decode fuel (index + 1) { p with rest := after } with
        | error fault => simp [hothers, Except.map] at hentries
        | ok result =>
          simp only [hothers, Except.map, Except.ok.injEq, Prod.mk.injEq] at hentries
          obtain ⟨-, rfl⟩ := hentries
          exact hfirst.next
            (ih (hp.of_subset (q := { p with rest := after }) rfl hfirst.subset) hothers)

lemma takesNode_list (h : TakesNode decode) : TakesNode (list decode) := by
  intro p values rest hp hlist
  obtain ⟨event, q, inner, -, hdecode, hq, hclosed | ⟨hrest, rfl⟩⟩ :=
    exists_node_of_ofEvent hp hlist
  · exact hclosed
  · rw [hrest]
    split at hdecode
    case h_1 hkind =>
      cases hentries : entries decode (q.rest.length + 1) 0 q with
      | error fault => simp [hentries, Except.mapError] at hdecode
      | ok result =>
        simp only [hentries, Except.mapError, Except.ok.injEq] at hdecode
        subst hdecode
        exact (closes_entries h hq hentries).collection (.inl hkind)
    case h_2 s hkind =>
      split_ifs at hdecode
      obtain ⟨-, rfl⟩ := Prod.mk.inj (Except.ok.inj hdecode)
      exact Closes.scalar hkind
    case h_3 => cases hdecode

end Decoder

/-! ### Records -/

namespace RecordForm

variable {form : RecordForm σ} {p : Place} {record record' : σ} {fuel : Nat}
  {rest : List (Event × Option Nat)} {seen : List String}

/-- The fields of a mapping from one of its keys on, each with the place of its value. -/
def fieldsFrom (form : RecordForm σ) : Nat → Place → List (String × Place)
  | 0, _ => []
  | fuel + 1, p =>
    match p.rest with
    | [] => []
    | (⟨.mappingEnd, _, _⟩, _) :: _ => []
    | _ =>
      match form.key p with
      | .error _ => []
      | .ok ((name, path), rest) =>
        let value : Place := { p with path := path, rest := rest }
        (name, value) :: fieldsFrom form fuel { p with rest := behind 0 rest }

/-- The fields of the mapping at a place. What is no mapping has none. -/
def fieldsAt (form : RecordForm σ) (p : Place) : List (String × Place) :=
  match p.node? with
  | some (⟨.mappingStart, _, _⟩, q) => form.fieldsFrom (q.rest.length + 1) q
  | _ => []

/-- What the decoder of a field makes of its value, if the field is there. -/
def given? (form : RecordForm σ) (p : Place) (name : String) (decode : Decoder α) : Option α :=
  ((form.fieldsAt p).lookup name).bind decode.value?

/-- Decoding a field of a name sets what is read off the record there, and nothing else does. -/
structure IsField (form : RecordForm σ) (name : String) (decode : Decoder α)
    (get : σ → Option β) (shown : α → Option β) : Prop where
  own {p : Place} {change : σ → σ} {rest : List (Event × Option Nat)} :
    form.set name p = .ok (change, rest) →
      ∃ value, decode p = .ok (value, rest) ∧ ∀ record, get (change record) = shown value
  other {name' : String} {p : Place} {change : σ → σ} {rest : List (Event × Option Nat)} :
    name' ∈ form.fields → name' ≠ name → form.set name' p = .ok (change, rest) →
      ∀ record, get (change record) = get record

lemma key_eq_ok {name : String} {path : Path} (hp : p.IsResolved)
    (h : form.key p = .ok ((name, path), rest)) : name ∈ form.fields ∧ Closes 0 p.rest rest := by
  unfold key at h
  extract_lets isReference read at h
  cases hread : read p with
  | error fault => simp [hread, Except.map] at h
  | ok result =>
    simp only [hread, Except.map, Except.ok.injEq, Prod.mk.injEq] at h
    obtain ⟨⟨rfl, -⟩, rfl⟩ := h
    refine ⟨?_, Decoder.takesNode_ofScalar p result.1 result.2 hp hread⟩
    obtain ⟨event, q, inner, -, hdecode, -⟩ := Decoder.exists_node_of_ofEvent hp hread
    split at hdecode
    case h_2 => cases hdecode
    case h_1 s _ =>
      by_cases hmem : s.text ∈ form.fields
      · simp only [if_pos hmem, Except.ok.injEq, Prod.mk.injEq] at hdecode
        exact hdecode.1 ▸ hmem
      · simp [if_neg hmem] at hdecode

/-- Decoding members either is at the end of the mapping or takes one member, which is the next
field. -/
lemma members_cases (hp : p.IsResolved)
    (h : form.members (fuel + 1) seen record p = .ok (record', rest)) :
    (∃ mark anchor reference, p.rest = (⟨.mappingEnd, mark, anchor⟩, reference) :: rest ∧
      record' = record ∧ form.fieldsFrom (fuel + 1) p = []) ∨
    ∃ (name : String) (value : Place) (change : σ → σ) (behindValue : List (Event × Option Nat)),
      name ∈ form.fields ∧ name ∉ seen ∧ Closes 0 p.rest value.rest ∧ value.IsResolved ∧
      form.set name value = .ok (change, behindValue) ∧
      form.members fuel (name :: seen) (change record) { p with rest := behindValue } =
        .ok (record', rest) ∧
      form.fieldsFrom (fuel + 1) p =
        (name, value) :: form.fieldsFrom fuel { p with rest := behind 0 value.rest } := by
  unfold members at h
  split at h
  case h_1 => cases h
  case h_2 mark anchor reference tail hrest =>
    obtain ⟨rfl, rfl⟩ := Prod.mk.inj (Except.ok.inj h)
    refine .inl ⟨mark, anchor, reference, hrest, rfl, ?_⟩
    unfold fieldsFrom
    rw [hrest]
  case h_3 hne hend =>
    split at h
    case h_1 => cases h
    case h_2 name path behindKey hkey =>
      obtain ⟨hname, hclosed⟩ := key_eq_ok hp hkey
      split_ifs at h with hseen
      split at h
      case h_1 => cases h
      case h_2 change behindValue hchange =>
        refine .inr ⟨name, { p with path := path, rest := behindKey }, change, behindValue, hname,
          hseen, hclosed, hp.of_subset rfl hclosed.subset, hchange, h, ?_⟩
        conv_lhs => unfold fieldsFrom
        split
        case h_1 hrest => exact absurd hrest hne
        case h_2 hrest => exact absurd hrest (hend _ _ _ _)
        case h_3 => simp [hkey]

/-- The members are taken up to the end of the mapping. -/
lemma closes_members (htakes : ∀ name ∈ form.fields, (form.set name).TakesNode) (hp : p.IsResolved)
    (h : form.members fuel seen record p = .ok (record', rest)) : Closes 1 p.rest rest := by
  induction fuel generalizing p seen record with
  | zero => cases h
  | succ fuel ih =>
    obtain ⟨mark, anchor, reference, hrest, -, -⟩ |
      ⟨name, value, change, behindValue, hname, -, hkey, hvalue, hchange, hothers, -⟩ :=
      members_cases hp h
    · exact hrest ▸ Closes.last (.inr rfl)
    · have hnext := htakes name hname value change behindValue hvalue hchange
      have hresolved : Place.IsResolved { p with rest := behindValue } :=
        hp.of_subset rfl (List.Subset.trans hnext.subset hkey.subset)
      exact hkey.next (hnext.next (ih hresolved hothers))

/-- What is read off the record as a field is set by the member of this name, if it is there. -/
lemma get_of_members (htakes : ∀ name ∈ form.fields, (form.set name).TakesNode) {name : String}
    {decode : Decoder α} {get : σ → Option β} {shown : α → Option β}
    (hget : form.IsField name decode get shown) (hp : p.IsResolved)
    (h : form.members fuel seen record p = .ok (record', rest)) :
    (name ∈ seen → get record' = get record) ∧
      (name ∉ seen →
        (form.fieldsFrom fuel p).lookup name = none ∧ get record' = get record ∨
        ∃ q value rest, (form.fieldsFrom fuel p).lookup name = some q ∧ q.IsResolved ∧
          decode q = .ok (value, rest) ∧ get record' = shown value) := by
  induction fuel generalizing p seen record with
  | zero => cases h
  | succ fuel ih =>
    obtain ⟨mark, anchor, reference, -, rfl, hnone⟩ |
      ⟨key, value, change, behindValue, hkey, hseen, hclosed, hvalue, hchange, hothers, hfields⟩ :=
      members_cases hp h
    · simp [hnone]
    · have hnext := htakes key hkey value change behindValue hvalue hchange
      have hresolved : Place.IsResolved { p with rest := behindValue } :=
        hp.of_subset rfl (List.Subset.trans hnext.subset hclosed.subset)
      obtain ⟨hsame, hset⟩ := ih hresolved hothers
      rw [hfields, hnext.eq, List.lookup_cons]
      by_cases heq : key = name
      · subst heq
        obtain ⟨found, hdecode, hshown⟩ := hget.own hchange
        refine ⟨fun hmem => absurd hmem hseen, fun _ => .inr ?_⟩
        refine ⟨value, found, behindValue, by simp, hvalue, hdecode, ?_⟩
        rw [hsame List.mem_cons_self, hshown]
      · have hne : (name == key) = false := by simpa using Ne.symm heq
        have hother := hget.other hkey heq hchange record
        constructor
        · intro hmem
          rw [hsame (List.mem_cons_of_mem _ hmem), hother]
        · intro hnew
          rw [hne, ← hother]
          exact hset (by simp [Ne.symm heq, hnew])

lemma takesNode_decode (htakes : ∀ name ∈ form.fields, (form.set name).TakesNode) :
    form.decode.TakesNode := by
  intro p record rest hp h
  obtain ⟨event, q, inner, -, hdecode, hq, hclosed | ⟨hrest, rfl⟩⟩ :=
    Decoder.exists_node_of_ofEvent hp h
  · exact hclosed
  · rw [hrest]
    dsimp only at hdecode
    split at hdecode
    case h_1 hkind =>
      cases hmembers : form.members (q.rest.length + 1) [] form.empty q with
      | error fault => simp [hmembers, Except.mapError] at hdecode
      | ok result =>
        simp only [hmembers, Except.mapError, Except.ok.injEq] at hdecode
        subst hdecode
        exact (closes_members htakes hq hmembers).collection (.inr hkind)
    case h_2 s hkind =>
      split_ifs at hdecode
      obtain ⟨-, rfl⟩ := Prod.mk.inj (Except.ok.inj hdecode)
      exact Closes.scalar hkind
    case h_3 => cases hdecode

/-- What is read off a decoded record as one of its fields is what the decoder of this field makes
of its value, if the field is there, whatever other fields there are. -/
lemma get_of_decode (htakes : ∀ name ∈ form.fields, (form.set name).TakesNode)
    {name : String} {decode : Decoder α} {get : σ → Option β} {shown : α → Option β}
    (hget : form.IsField name decode get shown) (hempty : get form.empty = none)
    (hp : p.IsResolved) (h : form.decode p = .ok (record, rest)) :
    (form.fieldsAt p).lookup name = none ∧ get record = none ∨
      ∃ q value rest, (form.fieldsAt p).lookup name = some q ∧ q.IsResolved ∧
        decode q = .ok (value, rest) ∧ get record = shown value := by
  obtain ⟨event, q, inner, hnode, hdecode, hq, -⟩ := Decoder.exists_node_of_ofEvent hp h
  unfold fieldsAt
  rw [hnode]
  dsimp only at hdecode
  obtain ⟨kind, mark, anchor⟩ := event
  cases kind with
  | mappingStart =>
    cases hmembers : form.members (q.rest.length + 1) [] form.empty q with
    | error fault => simp [hmembers, Except.mapError] at hdecode
    | ok result =>
      simp only [hmembers, Except.mapError, Except.ok.injEq] at hdecode
      subst hdecode
      rw [← hempty]
      exact (get_of_members htakes hget hq hmembers).2 List.not_mem_nil
  | scalar s =>
    dsimp only at hdecode
    split_ifs at hdecode
    obtain ⟨rfl, -⟩ := Prod.mk.inj (Except.ok.inj hdecode)
    exact .inl ⟨rfl, hempty⟩
  | _ => cases hdecode

/-- The same, with what is given. -/
theorem get_eq_given? (htakes : ∀ name ∈ form.fields, (form.set name).TakesNode)
    {name : String} {decode : Decoder α} {get : σ → Option β} {shown : α → Option β}
    (hget : form.IsField name decode get shown) (hempty : get form.empty = none)
    (hp : p.IsResolved) (h : form.decode p = .ok (record, rest)) :
    get record = (form.given? p name decode).bind shown := by
  obtain ⟨hnone, hrecord⟩ | ⟨q, value, rest, hsome, -, hdecode, hrecord⟩ :=
    get_of_decode htakes hget hempty hp h
  · simp [given?, hnone, hrecord]
  · simp [given?, hsome, Decoder.value?_of_eq hdecode, hrecord]

/-- A record that may be left out has nothing in its fields if it is. -/
lemma get_of_optional (htakes : ∀ name ∈ form.fields, (form.set name).TakesNode)
    {name : String} {decode : Decoder α} {get : σ → Option β} {shown : α → Option β}
    (hget : form.IsField name decode get shown) (hempty : get form.empty = none)
    {record : Option σ} (hp : p.IsResolved) (h : form.decode.optional p = .ok (record, rest)) :
    record.bind get = (form.given? p name decode).bind shown := by
  obtain ⟨found, rfl, hfound⟩ | ⟨rfl, -, s, mark, anchor, q, hnode⟩ := Decoder.optional_cases hp h
  · exact get_eq_given? htakes hget hempty hp hfound
  · simp [given?, fieldsAt, hnode]

/-- What is in a section of a record is what is given in this section. -/
lemma get_of_section {τ : Type} {inner : RecordForm τ} {section? : σ → Option τ} {key name : String}
    {decode : Decoder α} {get : τ → Option α}
    (htakes : ∀ name ∈ form.fields, (form.set name).TakesNode)
    (hsection : form.IsField key inner.decode.optional section? id)
    (hempty : section? form.empty = none)
    (hinnerTakes : ∀ name ∈ inner.fields, (inner.set name).TakesNode)
    (hget : inner.IsField name decode get some) (hinnerEmpty : get inner.empty = none)
    (hp : p.IsResolved) (h : form.decode p = .ok (record, rest)) :
    (section? record).bind get =
      ((form.fieldsAt p).lookup key).bind fun q => inner.given? q name decode := by
  obtain ⟨hnone, hrecord⟩ | ⟨q, value, rest, hsome, hq, hdecode, hrecord⟩ :=
    get_of_decode htakes hsection hempty hp h
  · simp [hnone, hrecord]
  · rw [hsome, hrecord]
    simpa using get_of_optional hinnerTakes hget hinnerEmpty hq hdecode

/-- A document that is decoded is a record, or there is nothing in it. -/
lemma decode_of_ofDocument {document : Document} (h : form.ofDocument document = .ok record) :
    (document.events = [] ∧ record = form.empty) ∨
      ∃ rest, form.decode ⟨document, .root, document.events⟩ = .ok (record, rest) := by
  unfold ofDocument at h
  extract_lets decoded at h
  have hdecoded : decoded = .ok record := by
    cases heq : decoded with
    | error fault => simp [heq] at h
    | ok found =>
      rw [heq] at h
      dsimp only at h
      split at h
      · cases h
      · split_ifs at h
        exact congrArg _ (Except.ok.inj h)
  unfold decoded at hdecoded
  split_ifs at hdecoded with hempty
  · simp only [Bool.and_eq_true, List.isEmpty_iff] at hempty
    exact .inl ⟨hempty.1, (Except.ok.inj hdecoded).symm⟩
  · cases hresult : form.decode ⟨document, .root, document.events⟩ with
    | error fault => simp [hresult, Except.map] at hdecoded
    | ok result =>
      simp only [hresult, Except.map, Except.ok.injEq] at hdecoded
      exact .inr ⟨result.2, congrArg Except.ok (Prod.ext hdecoded rfl)⟩

end RecordForm

end NotebookExport.Yaml
