import GameClient.Proofs.Reordering
import GameClient.Wire.Chat
import GameClient.Wire.Config
import GameClient.Wire.Purchase
import GameClient.Wire.Registry

/-!
# Reading what was written

Whoever writes the wire form of a value need not write it as the client does: the fields of a record
may come in another order, and among fields that the client does not know (`Wire.RecordVaries`), and
so in the records within it; the fields of the objects in a payload may be reordered at any depth
(`Json.Reorders`). All these forms are read as the value that was written. The main statement is
`wire_forms_are_read_back`.
-/

namespace GameClient

namespace Wire

/-! ## Varied forms -/

/-- An array of the same length whose items are varied one by one. -/
inductive ItemsVary (vary : Json → Json → Prop) : Json → Json → Prop
  | mk {items others : List Json} (itemsVary : List.Forall₂ vary items others) :
    ItemsVary vary (.array items) (.array others)

/-- A field of the same name, whose value is varied as fields of that name are. -/
def FieldVaries (vary : String → Json → Json → Prop) (field other : String × Json) : Prop :=
  other.1 = field.1 ∧ vary field.1 field.2 other.2

/-- An object with all the fields of a record, their values varied, and with any fields of other
names, in any order. -/
inductive RecordVaries (vary : String → Json → Json → Prop) : Json → Json → Prop
  | mk {fields varied added others : List (String × Json)}
    (fieldsVary : List.Forall₂ (FieldVaries vary) fields varied)
    (unknown : ∀ field ∈ added, field.1 ∉ fields.map Prod.fst)
    (readable : ∀ field ∈ added, field.2.normalize?.isSome = true)
    (perm : (varied ++ added).Perm others) :
    RecordVaries vary (.object fields) (.object others)

/-- The form of a record whose fields hold nothing that could be varied. -/
abbrev FlatRecordVaries : Json → Json → Prop := RecordVaries fun _ => Eq

/-- The form of a variant: its name, or an object with the one field of that name, whose value is
varied. -/
inductive VariantVaries (vary : Json → Json → Prop) : Json → Json → Prop
  | name (name : String) : VariantVaries vary (.string name) (.string name)
  | content {value other : Json} (name : String) (varies : vary value other) :
    VariantVaries vary (.object [(name, value)]) (.object [(name, other)])

/-- The values of a type are read from their wire forms, varied or not. -/
structure RoundTrips (α : Type) [Wire α] (vary : Json → Json → Prop) : Prop where
  written : ∀ value : α, decode? (encode value) = some value
  /-- Leaving the form as it is counts as a variation. -/
  kept : ∀ value : α, vary (encode value) (encode value)
  varied : ∀ (value : α) (form : Json), vary (encode value) form → decode? form = some value

theorem RoundTrips.of_varied {α : Type} [Wire α] {vary : Json → Json → Prop}
    (kept : ∀ value : α, vary (encode value) (encode value))
    (varied : ∀ (value : α) (form : Json), vary (encode value) form → decode? form = some value) :
    RoundTrips α vary :=
  ⟨fun value => varied value _ (kept value), kept, varied⟩

/-- A form that is never varied is read if the written one is. -/
theorem RoundTrips.of_written {α : Type} [Wire α]
    (written : ∀ value : α, decode? (encode value) = some value) : RoundTrips α Eq :=
  ⟨written, fun _ => rfl, fun value _ same => same ▸ written value⟩

section

variable {α : Type} [Wire α] {vary : Json → Json → Prop} {value : α} {form : Json}

theorem RoundTrips.required (trip : RoundTrips α vary) (varies : vary (encode value) form) :
    required? (some form) = some value :=
  trip.varied value form varies

theorem RoundTrips.optional (trip : RoundTrips α vary) (varies : vary (encode value) form)
    (default : α) : optional? default (some form) = some value :=
  trip.varied value form varies

end

/-! ## Texts, numbers and lists -/

theorem roundTrips_string : RoundTrips String Eq := .of_written Json.toText?_string

theorem roundTrips_word : RoundTrips UInt64 Eq := .of_written Json.toWord?_ofWord

theorem roundTrips_optionalText : RoundTrips (Option String) Eq :=
  .of_written fun value => by cases value <;> rfl

theorem decodeItems?_of_varied {α : Type} [Wire α] {vary : Json → Json → Prop}
    (item : RoundTrips α vary) {values : List α} {others : List Json}
    (varied : List.Forall₂ vary (values.map encode) others) :
    decodeItems? others = some values := by
  induction values generalizing others with
  | nil =>
      cases varied
      rfl
  | cons value values ih =>
      rw [List.map_cons] at varied
      obtain @⟨_, _⟩ | @⟨_, other, _, others, varies, rest⟩ := varied
      simp only [decodeItems?, item.varied value other varies, ih rest]

theorem roundTrips_list {α : Type} [Wire α] {vary : Json → Json → Prop}
    (item : RoundTrips α vary) : RoundTrips (List α) (ItemsVary vary) := by
  refine .of_varied (fun values => ⟨?_⟩) ?_
  · rw [List.forall₂_map_left_iff, List.forall₂_map_right_iff, List.forall₂_same]
    exact fun value _ => item.kept value
  · rintro values _ ⟨varied⟩
    exact decodeItems?_of_varied item varied

/-! ## The fields of a varied record -/

section Record

variable {vary : String → Json → Json → Prop} {fields varied others : List (String × Json)}

theorem RecordVaries.refl (each : ∀ field ∈ fields, vary field.1 field.2 field.2) :
    RecordVaries vary (.object fields) (.object fields) := by
  refine ⟨(List.forall₂_same.mpr fun field mem => ⟨rfl, each field mem⟩), ?_, ?_,
    .of_eq (List.append_nil fields)⟩
  · nofun
  · nofun

theorem FlatRecordVaries.refl (fields : List (String × Json)) :
    FlatRecordVaries (.object fields) (.object fields) :=
  RecordVaries.refl fun _ _ => rfl

theorem RecordVaries.exists_object {written form : Json} (varies : RecordVaries vary written form) :
    ∃ others, form = .object others := by
  obtain ⟨⟩ := varies
  exact ⟨_, rfl⟩

theorem names_of_fieldsVary (fieldsVary : List.Forall₂ (FieldVaries vary) fields varied) :
    varied.map Prod.fst = fields.map Prod.fst := by
  induction fieldsVary with
  | nil => rfl
  | cons varies _ ih => rw [List.map_cons, List.map_cons, varies.1, ih]

theorem filter_name_of_not_mem {name : String} (absent : name ∉ fields.map Prod.fst) :
    fields.filter (fun field => field.1 == name) = [] := by
  rw [List.filter_eq_nil_iff]
  intro field mem same
  exact absent (List.mem_map.mpr ⟨field, mem, beq_iff_eq.mp same⟩)

/-- A field of the record is the only one of its name. -/
theorem filter_name_of_fieldsVary {name : String} {value : Json}
    (fieldsVary : List.Forall₂ (FieldVaries vary) fields varied)
    (nodup : (fields.map Prod.fst).Nodup) (mem : (name, value) ∈ fields) :
    ∃ other, vary name value other ∧
      varied.filter (fun field => field.1 == name) = [(name, other)] := by
  induction fieldsVary with
  | nil => exact absurd mem List.not_mem_nil
  | @cons field given fields varied varies rest ih =>
      obtain ⟨first, other⟩ := given
      obtain ⟨rfl, valueVaries⟩ := varies
      obtain ⟨new, nodup⟩ := List.nodup_cons.mp nodup
      simp only [List.filter_cons, beq_iff_eq]
      rcases List.mem_cons.mp mem with rfl | mem
      · rw [← names_of_fieldsVary rest] at new
        refine ⟨other, valueVaries, ?_⟩
        rw [if_pos rfl, filter_name_of_not_mem new]
      · have differ : field.1 ≠ name := by
          rintro rfl
          exact new (List.mem_map.mpr ⟨_, mem, rfl⟩)
        rw [if_neg differ]
        exact ih nodup mem

/-- Each field of the record is there once in a varied form, with its value varied. -/
theorem single?_of_varied {name : String} {value : Json}
    (varies : RecordVaries vary (.object fields) (.object others))
    (nodup : (fields.map Prod.fst).Nodup) (mem : (name, value) ∈ fields) :
    ∃ other, vary name value other ∧ single? name others = some (some other) := by
  obtain @⟨_, varied, added, _, fieldsVary, unknown, -, perm⟩ := varies
  obtain ⟨other, valueVaries, found⟩ := filter_name_of_fieldsVary fieldsVary nodup mem
  have absent : name ∉ added.map Prod.fst := by
    intro also
    obtain ⟨field, fieldMem, rfl⟩ := List.mem_map.mp also
    exact unknown field fieldMem (List.mem_map.mpr ⟨_, mem, rfl⟩)
  have all := perm.filter fun field => field.1 == name
  rw [List.filter_append, found, filter_name_of_not_mem absent, List.append_nil,
    List.singleton_perm] at all
  exact ⟨other, valueVaries, by rw [single?, ← all]⟩

theorem singles?_of_varied (varies : RecordVaries vary (.object fields) (.object others))
    (nodup : (fields.map Prod.fst).Nodup) :
    ∃ values, List.Forall₂ (fun field value => vary field.1 field.2 value) fields values ∧
      singles? others (fields.map Prod.fst) = some (values.map some) := by
  -- The names are looked up one after the other, but each among all the fields.
  have part : ∀ part ⊆ fields,
      ∃ values, List.Forall₂ (fun field value => vary field.1 field.2 value) part values ∧
        singles? others (part.map Prod.fst) = some (values.map some) := by
    intro part
    induction part with
    | nil => exact fun _ => ⟨[], .nil, rfl⟩
    | cons field part ih =>
        intro subset
        obtain ⟨mem, subset⟩ := List.cons_subset.mp subset
        obtain ⟨value, valueVaries, found⟩ := single?_of_varied varies nodup mem
        obtain ⟨values, valuesVary, rest⟩ := ih subset
        exact ⟨value :: values, .cons valueVaries valuesVary, by
          simp only [List.map_cons, singles?, found, rest]⟩
  exact part fields (List.Subset.refl fields)

/-- A record is read from a varied form by the names of the fields that it is written with. -/
theorem record?_of_varied {form : Json} (names : List String)
    (varies : RecordVaries vary (.object fields) form) (written : fields.map Prod.fst = names)
    (nodup : names.Nodup) :
    ∃ values, List.Forall₂ (fun field value => vary field.1 field.2 value) fields values ∧
      record? names form = some (values.map some) ∧
      ∀ surplus, defaulted? surplus names form = some (values.map some) := by
  subst written
  cases varies with
  | mk fieldsVary unknown readable perm =>
      obtain ⟨values, valuesVary, found⟩ :=
        singles?_of_varied ⟨fieldsVary, unknown, readable, perm⟩ nodup
      exact ⟨values, valuesVary, found, fun _ => found⟩

end Record

/-! ## Games -/

open Session

theorem roundTrips_gameHandle : RoundTrips GameHandle FlatRecordVaries := by
  refine .of_varied (fun _ => FlatRecordVaries.refl _) fun handle form varies => ?_
  obtain ⟨_, _ | ⟨rfl, _ | ⟨rfl, ⟨⟩⟩⟩, read, -⟩ :=
    record?_of_varied ["public_key", "display_name"] varies rfl (by decide)
  simp only [decode?, read]
  rfl

/-- A snapshot is a record, and so are the games in it. -/
abbrev SnapshotVaries : Json → Json → Prop :=
  RecordVaries fun name => if name = "sequencers" then ItemsVary FlatRecordVaries else Eq

theorem roundTrips_registrySnapshot : RoundTrips RegistrySnapshot SnapshotVaries := by
  have games := roundTrips_list roundTrips_gameHandle
  refine .of_varied (fun snapshot => .refl ?_) fun snapshot form varies => ?_
  · simp [games.kept]
  · obtain ⟨_, _ | ⟨sequencers, _ | ⟨loaded, ⟨⟩⟩⟩, read, -⟩ :=
      record?_of_varied ["sequencers", "loaded"] varies rfl (by decide)
    simp only [decode?, read, List.map_cons, List.map_nil]
    rw [games.required sequencers, roundTrips_optionalText.optional loaded]

/-! ## Sessions -/

theorem roundTrips_phase : RoundTrips Phase Eq :=
  .of_written Phase.ofName?_name

theorem roundTrips_ticket : RoundTrips Ticket FlatRecordVaries := by
  refine .of_varied (fun _ => FlatRecordVaries.refl _) fun ticket form varies => ?_
  obtain ⟨_, _ | ⟨rfl, _ | ⟨rfl, ⟨⟩⟩⟩, read, -⟩ :=
    record?_of_varied ["invite_code", "passcode"] varies rfl (by decide)
  simp only [decode?, read]
  rfl

theorem roundTrips_finalizationParams : RoundTrips FinalizationParams FlatRecordVaries := by
  refine .of_varied (fun _ => FlatRecordVaries.refl _) fun params form varies => ?_
  obtain ⟨_, _ | ⟨code, _ | ⟨passcode, _ | ⟨time, _ | ⟨amount, ⟨⟩⟩⟩⟩⟩, read, -⟩ :=
    record?_of_varied ["code", "passcode", "finish_time", "start_amount"] varies rfl (by decide)
  simp only [decode?, read, List.map_cons, List.map_nil]
  rw [roundTrips_string.required code, roundTrips_string.required passcode,
    roundTrips_word.required time, roundTrips_word.required amount]

theorem roundTrips_creationOutcome :
    RoundTrips CreationOutcome (VariantVaries FlatRecordVaries) := by
  refine .of_varied (fun outcome => ?_) fun outcome form varies => ?_
  · cases outcome with
    | created ticket => exact .content "Created" (roundTrips_ticket.kept ticket)
    | joined => exact .name "Joined"
  · cases outcome with
    | created ticket =>
        obtain ⟨⟩ | ⟨_, varies⟩ := varies
        simp only [decode?]
        exact congrArg (Option.map _) (roundTrips_ticket.varied ticket _ varies)
    | joined =>
        obtain ⟨⟩ := varies
        rfl

/-! A request is taken in as a whole: also the fields that are added have to be readable. -/

/-- No part of a varied form is unreadable. -/
theorem readable_of_varied {written form : List (String × Json)}
    (varies : FlatRecordVaries (.object written) (.object form))
    (readable : ∀ field ∈ written, field.2.normalize?.isSome = true) :
    (Json.object form).normalize?.isSome = true := by
  obtain @⟨_, varied, added, _, fieldsVary, -, addedReadable, perm⟩ := varies
  have same : written = varied := by
    rw [← List.forall₂_eq_eq_eq]
    exact fieldsVary.imp fun field other varies => Prod.ext varies.1.symm varies.2
  subst same
  rw [Json.normalize?, Option.isSome_map]
  refine Json.isSome_normalizeFields? fun field mem => ?_
  rcases List.mem_append.mp (perm.mem_iff.mpr mem) with mem | mem
  · exact readable field mem
  · exact addedReadable field mem

theorem decode?_request_of_readable {form : Json} (readable : form.normalize?.isSome = true) :
    (decode? form : Option CreationRequest) = decodeRequest? form :=
  if_pos readable

theorem roundTrips_creationRequest : RoundTrips CreationRequest FlatRecordVaries := by
  refine .of_varied (fun request => ?_) fun request form varies => ?_
  · cases request with
    | new | join => exact FlatRecordVaries.refl _
  · cases request with
    | new nickname =>
        have nodup : ["mode", "nickname"].Nodup := by decide
        obtain ⟨fields, rfl⟩ := varies.exists_object
        obtain ⟨_, rfl, mode⟩ := single?_of_varied varies nodup (.head _)
        obtain ⟨_, rfl, name⟩ := single?_of_varied varies nodup (.tail _ (.head _))
        have readable := readable_of_varied varies
          (by simp [encode, Json.normalize?])
        rw [decode?_request_of_readable readable]
        simp only [decodeRequest?, mode, decodeRequestFields?, singles?, name]
        rfl
    | join nickname code =>
        have nodup : ["mode", "nickname", "invite_code"].Nodup := by decide
        obtain ⟨fields, rfl⟩ := varies.exists_object
        obtain ⟨_, rfl, mode⟩ := single?_of_varied varies nodup (.head _)
        obtain ⟨_, rfl, name⟩ := single?_of_varied varies nodup (.tail _ (.head _))
        obtain ⟨_, rfl, code⟩ := single?_of_varied varies nodup (.tail _ (.tail _ (.head _)))
        have readable := readable_of_varied varies
          (by simp [encode, Json.normalize?])
        rw [decode?_request_of_readable readable]
        simp only [decodeRequest?, mode, decodeRequestFields?, singles?, name, code]
        rfl

/-! ## Chat messages -/

theorem decode?_message (sequence author text : Json) :
    (decode? (.array [sequence, author, text]) : Option Chat.Message) =
      match (decode? sequence : Option UInt64), (decode? author : Option String),
        (decode? text : Option String) with
      | some sequence, some author, some text => some { sequence, author, text }
      | _, _, _ => none :=
  rfl

theorem roundTrips_message : RoundTrips Chat.Message Eq := by
  refine .of_written fun message => ?_
  have form : encode message =
      .array [encode message.sequence, encode message.author, encode message.text] := rfl
  rw [form, decode?_message, roundTrips_word.written, roundTrips_string.written,
    roundTrips_string.written]

/-! ## Configurations -/

theorem roundTrips_gameSettings : RoundTrips GameSettings FlatRecordVaries := by
  refine .of_varied (fun _ => FlatRecordVaries.refl _) fun settings form varies => ?_
  obtain ⟨_, _ | ⟨time, _ | ⟨amount, ⟨⟩⟩⟩, -, read⟩ :=
    record?_of_varied ["finish_time_ms", "start_amount"] varies rfl (by decide)
  simp only [decode?, decodeSettings?, read, List.map_cons, List.map_nil]
  rw [roundTrips_word.optional time, roundTrips_word.optional amount]

theorem roundTrips_chatConfig : RoundTrips ChatConfig FlatRecordVaries := by
  refine .of_varied (fun _ => FlatRecordVaries.refl _) fun chat form varies => ?_
  obtain ⟨_, _ | ⟨scrollback, ⟨⟩⟩, -, read⟩ :=
    record?_of_varied ["scrollback"] varies rfl (by decide)
  simp only [decode?, decodeChat?, read, List.map_cons, List.map_nil]
  rw [roundTrips_word.optional scrollback, Option.map_some]

/-- A configuration is a record, and so are the settings of games and of the chat in it. -/
abbrev ConfigVaries : Json → Json → Prop :=
  RecordVaries fun name => if name = "log_filter" then Eq else FlatRecordVaries

theorem roundTrips_config : RoundTrips Config ConfigVaries := by
  refine .of_varied (fun config => .refl ?_) fun config form varies => ?_
  · simp [roundTrips_gameSettings.kept, roundTrips_chatConfig.kept]
  · obtain ⟨_, _ | ⟨finalize, _ | ⟨chat, _ | ⟨logFilter, ⟨⟩⟩⟩⟩, -, read⟩ :=
      record?_of_varied ["finalize", "chat", "log_filter"] varies rfl (by decide)
    simp only [decode?, decodeConfig?, read, List.map_cons, List.map_nil, fieldOr?]
    have finalize : decodeSettings? .refused _ = some config.finalize :=
      roundTrips_gameSettings.varied _ _ finalize
    have chat : decodeChat? .refused _ = some config.chat := roundTrips_chatConfig.varied _ _ chat
    rw [finalize, chat, roundTrips_string.optional logFilter]

/-! ## Purchases -/

theorem roundTrips_payload : RoundTrips Payload Json.Reorders :=
  .of_varied (fun payload => .refl payload.json) fun _ _ => Payload.ofJson?_of_reorders

theorem roundTrips_playerId : RoundTrips PlayerId Eq :=
  .of_written fun player =>
    congrArg (Option.map PlayerId.mk) (roundTrips_word.written player.number)

theorem roundTrips_purchaseSchema : RoundTrips PurchaseSchema Json.Reorders :=
  .of_varied (fun schema => roundTrips_payload.kept schema.form) fun schema form reorders =>
    congrArg (Option.map PurchaseSchema.mk) (roundTrips_payload.varied schema.form form reorders)

/-- An offer is a record with any JSON in it. -/
abbrev OfferVaries : Json → Json → Prop :=
  RecordVaries fun name => if name = "purchase_data" then Json.Reorders else Eq

theorem roundTrips_purchaseOffer : RoundTrips PurchaseOffer OfferVaries := by
  refine .of_varied (fun offer => .refl ?_) fun offer form varies => ?_
  · simp [roundTrips_payload.kept]
  · obtain ⟨_, _ | ⟨data, _ | ⟨player, ⟨⟩⟩⟩, read, -⟩ :=
      record?_of_varied ["purchase_data", "from"] varies rfl (by decide)
    simp only [decode?, read, List.map_cons, List.map_nil]
    rw [roundTrips_payload.required data, roundTrips_playerId.required player]

end Wire

/-! ## The main statement -/

open Wire Session

/-- **Values are read back.** The value that was written is read from its wire form, and from each
form that may stand for it: the records in it may have their fields in any order and among fields of
other names, the objects in a payload may have theirs in any order. -/
theorem wire_forms_are_read_back :
    RoundTrips Chat.Message Eq ∧
    RoundTrips (List Chat.Message) (ItemsVary Eq) ∧
    RoundTrips GameHandle FlatRecordVaries ∧
    RoundTrips RegistrySnapshot SnapshotVaries ∧
    RoundTrips CreationRequest FlatRecordVaries ∧
    RoundTrips Phase Eq ∧
    RoundTrips GameSettings FlatRecordVaries ∧
    RoundTrips Ticket FlatRecordVaries ∧
    RoundTrips FinalizationParams FlatRecordVaries ∧
    RoundTrips PlayerId Eq ∧
    RoundTrips PurchaseSchema Json.Reorders ∧
    RoundTrips PurchaseOffer OfferVaries ∧
    RoundTrips CreationOutcome (VariantVaries FlatRecordVaries) ∧
    RoundTrips ChatConfig FlatRecordVaries ∧
    RoundTrips Config ConfigVaries :=
  ⟨roundTrips_message, roundTrips_list roundTrips_message, roundTrips_gameHandle,
    roundTrips_registrySnapshot, roundTrips_creationRequest, roundTrips_phase,
    roundTrips_gameSettings, roundTrips_ticket, roundTrips_finalizationParams, roundTrips_playerId,
    roundTrips_purchaseSchema, roundTrips_purchaseOffer, roundTrips_creationOutcome,
    roundTrips_chatConfig, roundTrips_config⟩

/-- A request for a new game may have an invite code among its fields: only the ones that join a
game know it. -/
example : decode? (.object [("invite_code", .null), ("nickname", .string "Ada"),
    ("mode", .string "New")]) = some (CreationRequest.new "Ada") := by
  rfl

end GameClient
