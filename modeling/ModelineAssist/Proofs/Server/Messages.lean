import Mathlib.Algebra.Group.Int.Defs
import ModelineAssist.Proofs.Json.Record
import ModelineAssist.Proofs.Server.Handling

/-!
What messages about documents say. A document is opened, changed or closed by a notification, and
asked about by a request; which of its members say so is told here member by member, and the program
reads exactly these messages, each as what it says.
-/
namespace ModelineAssist.Server
open Record Reading

variable {j v params : Json} {uri : Uri} {text method : String} {texts : List String}
  {place : Position} {id : Option Id}

/-! ### Parts of messages -/

/-- A text. -/
def IsText (v : Json) : Prop := ∃ s, v = .string s

/-- A whole number of 32 bits with a sign. -/
def IsInt32 (v : Json) : Prop := ∃ n : Int, (-2 ^ 31 ≤ n ∧ n < 2 ^ 31) ∧ v = .int n

/-- A whole number of 32 bits without a sign. -/
def IsUInt32 (v : Json) : Prop := ∃ n : UInt32, v = .int n.toNat

/-- A token by which a client follows the progress of its request. -/
def IsToken (v : Json) : Prop := IsInt32 v ∨ IsText v

/-- An identifier of a document, in any spelling that is parsed as it. -/
def IsUri (uri : Uri) (v : Json) : Prop :=
  ∃ s : String, v = .string s ∧ Uri.parse? s.toList = some uri

/-- A place in a document. -/
def IsPosition (p : Position) (v : Json) : Prop :=
  v.fields? ["line", "character"] = some [some (.int p.line.toNat), some (.int p.character.toNat)]

/-- A range of a document. -/
def IsRange (v : Json) : Prop :=
  ∃ start stop p q, v.fields? ["start", "end"] = some [some start, some stop] ∧
    IsPosition p start ∧ IsPosition q stop

/-- A document, by its identifier. -/
def IsDocument (uri : Uri) (v : Json) : Prop :=
  ∃ name, v.fields? ["uri"] = some [some name] ∧ IsUri uri name

/-- A document of some version, by its identifier. -/
def IsNumbered (uri : Uri) (v : Json) : Prop :=
  ∃ name version, v.fields? ["uri", "version"] = some [some name, some version] ∧
    IsUri uri name ∧ IsInt32 version

/-- A document with its text. -/
def IsItem (uri : Uri) (text : String) (v : Json) : Prop :=
  ∃ name language version, v.fields? ["uri", "languageId", "version", "text"] =
      some [some name, some (.string language), some version, some (.string text)] ∧
    IsUri uri name ∧ IsInt32 version

/-- A change to a text. The range is passed over. -/
def IsChange (text : String) (v : Json) : Prop :=
  ∃ range length, v.fields? ["range", "rangeLength", "text"] =
      some [range, length, some (.string text)] ∧
    IfGiven IsRange range ∧ IfGiven IsUInt32 length

/-- How a completion came to be asked for. -/
def IsContext (v : Json) : Prop :=
  ∃ kind trigger, v.fields? ["triggerKind", "triggerCharacter"] = some [some kind, trigger] ∧
    IsInt32 kind ∧ IfGiven IsText trigger

theorem exists_string_iff : (∃ s, string v = some s) ↔ IsText v := by
  simp [IsText]

theorem exists_int32_iff : (∃ n, int32 v = some n) ↔ IsInt32 v := by
  have hlow : Int32.minValue.toInt = -2 ^ 31 := rfl
  have hhigh : Int32.maxValue.toInt = 2 ^ 31 - 1 := rfl
  simp only [int32, intFrom_eq_some_iff, IsInt32, hlow, hhigh, Int.le_sub_one_iff]

theorem exists_uint32_iff : (∃ n, uint32 v = some n) ↔ IsUInt32 v := by
  simp [IsUInt32]

theorem exists_progressToken_iff : (∃ u, progressToken v = some u) ↔ IsToken v := by
  rw [progressToken, exists_either_iff]
  simp [IsToken, IsText, exists_int32_iff]

theorem uri_eq_some_iff : Server.uri v = some uri ↔ IsUri uri v := by
  simp [Server.uri, IsUri, Option.bind_eq_some_iff]

theorem position_eq_some_iff : position v = some place ↔ IsPosition place v := by
  have reads := (readsField_field "line" uint32).bind fun line =>
    (readsField_field "character" uint32).bind fun character =>
      Reads.pure (⟨line, character⟩ : Position)
  cases place
  rw [position, reads.ofJson?_eq]
  simp [Option.bind_eq_some_iff, IsPosition]

theorem exists_range_iff : (∃ r, range v = some r) ↔ IsRange v := by
  have reads := (readsField_field "start" position).bind fun start =>
    (readsField_field "end" position).bind fun stop => Reads.pure (⟨start, stop⟩ : Range)
  rw [range, reads.ofJson?_eq]
  simp only [Option.bind_eq_some_iff, takeThen_eq_some_iff, position_eq_some_iff,
    finish_eq_some_iff, ↓existsAndEq, true_and, exists_and_left, and_true]
  constructor
  · rintro ⟨p, q, stop, start, h, hp, hq⟩
    exact ⟨start, stop, p, q, h, hp, hq⟩
  · rintro ⟨start, stop, p, q, h, hp, hq⟩
    exact ⟨p, q, stop, start, h, hp, hq⟩

theorem document_eq_some_iff : document v = some uri ↔ IsDocument uri v := by
  have reads := (readsField_field "uri" Server.uri).reads
  rw [document, reads.ofJson?_eq]
  simp [Option.bind_eq_some_iff, uri_eq_some_iff, IsDocument]

theorem numberedDocument_eq_some_iff : numberedDocument v = some uri ↔ IsNumbered uri v := by
  have reads := (readsField_field "uri" Server.uri).bind fun uri =>
    (readsField_field "version" int32).bind fun _ => Reads.pure uri
  rw [numberedDocument, reads.ofJson?_eq]
  simp only [Option.bind_eq_some_iff, takeThen_eq_some_iff, uri_eq_some_iff, finish_eq_some_iff,
    exists_and_right, ↓existsAndEq, true_and, and_true, exists_and_left]
  constructor
  · rintro ⟨n, version, name, h, huri, hn⟩
    exact ⟨name, version, h, huri, exists_int32_iff.mp ⟨n, hn⟩⟩
  · rintro ⟨name, version, h, huri, hversion⟩
    obtain ⟨n, hn⟩ := exists_int32_iff.mpr hversion
    exact ⟨n, version, name, h, huri, hn⟩

theorem documentItem_eq_some_iff : documentItem v = some (uri, text) ↔ IsItem uri text v := by
  have reads := (readsField_field "uri" Server.uri).bind fun uri =>
    (readsField_field "languageId" string).bind fun _ =>
      (readsField_field "version" int32).bind fun _ =>
        (readsField_field "text" string).bind fun text => Reads.pure (uri, text)
  rw [documentItem, reads.ofJson?_eq]
  simp only [Option.bind_eq_some_iff, takeThen_eq_some_iff, uri_eq_some_iff, string_eq_some_iff,
    exists_eq_right, finish_eq_some_iff, Prod.mk.injEq, ↓existsAndEq, and_true, true_and,
    exists_and_right, exists_and_left]
  constructor
  · rintro ⟨n, version, name, ⟨language, h⟩, huri, hn⟩
    exact ⟨name, language, version, h, huri, exists_int32_iff.mp ⟨n, hn⟩⟩
  · rintro ⟨name, language, version, h, huri, hversion⟩
    obtain ⟨n, hn⟩ := exists_int32_iff.mpr hversion
    exact ⟨n, version, name, ⟨language, h⟩, huri, hn⟩

theorem change_eq_some_iff : change v = some text ↔ IsChange text v := by
  have reads := (readsField_optional "range" range).bind fun _ =>
    (readsField_optional "rangeLength" uint32).bind fun _ =>
      (readsField_field "text" string).reads
  rw [change, reads.ofJson?_eq]
  simp [Option.bind_eq_some_iff, exists_elim_orNull_iff fun w => exists_range_iff,
    exists_elim_orNull_iff fun w => exists_uint32_iff, IsChange]

theorem exists_completionContext_iff : (∃ u, completionContext v = some u) ↔ IsContext v := by
  have reads := (readsField_field "triggerKind" int32).bind fun _ =>
    (readsField_optional "triggerCharacter" string).bind fun _ => Reads.pure ()
  rw [completionContext, reads.ofJson?_eq]
  simp only [Option.bind_eq_some_iff, takeThen_eq_some_iff, finish_eq_some_iff, and_true,
    exists_and_right, exists_eq_right_right, ↓existsAndEq, true_and, exists_const,
    exists_elim_orNull_iff fun w => exists_string_iff]
  constructor
  · rintro ⟨trigger, n, kind, h, hn, htrigger⟩
    exact ⟨kind, trigger, h, exists_int32_iff.mp ⟨n, hn⟩, htrigger⟩
  · rintro ⟨kind, trigger, h, hkind, htrigger⟩
    obtain ⟨n, hn⟩ := exists_int32_iff.mpr hkind
    exact ⟨trigger, n, kind, h, hn, htrigger⟩

/-! ### What parameters say -/

/-- A document is opened with a text. -/
def Opens (uri : Uri) (text : String) (params : Json) : Prop :=
  ∃ item, params.fields? ["textDocument"] = some [some item] ∧ IsItem uri text item

/-- A document is changed to some texts, one after another. -/
def Changes (uri : Uri) (texts : List String) (params : Json) : Prop :=
  ∃ document changes, params.fields? ["textDocument", "contentChanges"] =
      some [some document, some (.array changes)] ∧
    IsNumbered uri document ∧ List.Forall₂ (fun v text => IsChange text v) changes texts

/-- A document is closed. -/
def Closes (uri : Uri) (params : Json) : Prop :=
  ∃ document, params.fields? ["textDocument"] = some [some document] ∧ IsDocument uri document

/-- A description is asked for at a place in a document. -/
structure AsksHover (uri : Uri) (place : Position) (params : Json) : Prop where
  document : ∃ v, params.get? "textDocument" = some v ∧ IsDocument uri v
  position : ∃ v, params.get? "position" = some v ∧ IsPosition place v
  work : IfGiven IsToken (params.get? "workDoneToken")

/-- Candidates are asked for at a place in a document. -/
structure AsksCompletion (uri : Uri) (place : Position) (params : Json) : Prop extends
    AsksHover uri place params where
  results : IfGiven IsToken (params.get? "partialResultToken")
  context : IfGiven IsContext (params.get? "context")

theorem openedDocument_eq_some_iff :
    openedDocument params = some (uri, text) ↔ Opens uri text params := by
  have reads := (readsField_field "textDocument" documentItem).reads
  rw [openedDocument, reads.ofJson?_eq]
  simp [Option.bind_eq_some_iff, documentItem_eq_some_iff, Opens]

theorem changedDocument_eq_some_iff :
    changedDocument params = some (uri, texts) ↔ Changes uri texts params := by
  have reads := (readsField_field "textDocument" numberedDocument).bind fun uri =>
    (readsField_field "contentChanges" (list change)).bind fun texts => Reads.pure (uri, texts)
  rw [changedDocument, reads.ofJson?_eq]
  simp only [Option.bind_eq_some_iff, takeThen_eq_some_iff, numberedDocument_eq_some_iff,
    list_eq_some_iff, change_eq_some_iff, ↓existsAndEq, true_and, finish_eq_some_iff,
    Prod.mk.injEq, and_true, exists_and_left]
  constructor
  · rintro ⟨changes, document, h, hdocument, hchanges⟩
    exact ⟨document, changes, h, hdocument, hchanges⟩
  · rintro ⟨document, changes, h, hdocument, hchanges⟩
    exact ⟨changes, document, h, hdocument, hchanges⟩

theorem closedDocument_eq_some_iff : closedDocument params = some uri ↔ Closes uri params := by
  have reads := (readsField_field "textDocument" document).reads
  rw [closedDocument, reads.ofJson?_eq]
  simp [Option.bind_eq_some_iff, document_eq_some_iff, Closes]

theorem hoverPlace_eq_some_iff :
    hoverPlace params = some (uri, place) ↔ AsksHover uri place params := by
  have reads := (readsField_field "textDocument" document).bind fun uri =>
    (readsField_field "position" position).bind fun place =>
      (readsField_optional "workDoneToken" progressToken).bind fun _ => Reads.pure (uri, place)
  simp only [hoverPlace, Server.place, workToken, bind_assoc, pure_bind,
    reads.ofObject?_eq_get? rfl, List.map_cons, List.map_nil, takeThen_eq_some_iff,
    List.cons.injEq, Option.bind_eq_some_iff, document_eq_some_iff, position_eq_some_iff,
    finish_eq_some_iff, Prod.mk.injEq, exists_and_right,
    exists_elim_orNull_iff fun w => exists_progressToken_iff, ↓existsAndEq, true_and, and_true,
    exists_and_left, exists_eq_left']
  constructor
  · rintro ⟨hdocument, v, hv, hposition, hwork⟩
    exact ⟨hdocument, ⟨v, hv, hposition⟩, hwork⟩
  · rintro ⟨hdocument, ⟨v, hv, hposition⟩, hwork⟩
    exact ⟨hdocument, v, hv, hposition, hwork⟩

theorem completionPlace_eq_some_iff :
    completionPlace params = some (uri, place) ↔ AsksCompletion uri place params := by
  have reads := (readsField_field "textDocument" document).bind fun uri =>
    (readsField_field "position" position).bind fun place =>
      (readsField_optional "workDoneToken" progressToken).bind fun _ =>
        (readsField_optional "partialResultToken" progressToken).bind fun _ =>
          (readsField_optional "context" completionContext).bind fun _ => Reads.pure (uri, place)
  simp only [completionPlace, Server.place, tokens, workToken, bind_assoc, pure_bind,
    reads.ofObject?_eq_get? rfl, List.map_cons, List.map_nil, takeThen_eq_some_iff,
    List.cons.injEq, Option.bind_eq_some_iff, document_eq_some_iff, position_eq_some_iff,
    finish_eq_some_iff, Prod.mk.injEq, exists_and_right,
    exists_elim_orNull_iff fun w => exists_completionContext_iff, ↓existsAndEq, true_and,
    exists_elim_orNull_iff fun w => exists_progressToken_iff, and_true, exists_and_left,
    exists_eq_left']
  constructor
  · rintro ⟨hdocument, v, hv, hposition, hwork, hresults, hcontext⟩
    exact ⟨⟨hdocument, ⟨v, hv, hposition⟩, hwork⟩, hresults, hcontext⟩
  · rintro ⟨⟨hdocument, ⟨v, hv, hposition⟩, hwork⟩, hresults, hcontext⟩
    exact ⟨hdocument, v, hv, hposition, hwork, hresults, hcontext⟩

/-! ### Messages -/

/-- How an identifier of a request is written. -/
inductive Id.WrittenAs : Id → Json → Prop
  | number (n : Int) (low : -2 ^ 63 ≤ n) (high : n < 2 ^ 63) : WrittenAs (.number n) (.int n)
  | text (s : String) : WrittenAs (.text s) (.string s)
  | null : WrittenAs .null .null

/-- A message of the protocol. It is a request if it has an identifier, and else a notification; in
an array the identifier may be left out, and then also the parameters. -/
def IsMessage (method : String) (id : Option Id) (params : Option Json) (j : Json) : Prop :=
  (∃ name, j.fields? ["jsonrpc", "method", "params", "id"] =
      some [some (.string "2.0"), some (.string method), params, name] ∧
    Option.Rel Id.WrittenAs id name) ∨
  id = none ∧ j = .array (.string "2.0" :: .string method :: params.toList)

theorem id_eq_some_iff {id : Id} : Id.ofJson? v = some id ↔ id.WrittenAs v := by
  have hlow : Int64.minValue.toInt = -2 ^ 63 := rfl
  have hhigh : Int64.maxValue.toInt = 2 ^ 63 - 1 := rfl
  constructor
  · intro h
    cases v with
    | int n =>
      simp only [Id.ofJson?, Option.map_eq_some_iff, int64, intFrom_eq_some_iff, hlow, hhigh] at h
      obtain ⟨m, ⟨⟨hge, hle⟩, hm⟩, rfl⟩ := h
      obtain rfl := Json.int.inj hm
      exact .number n hge (Int.lt_of_le_sub_one hle)
    | string s => obtain rfl := Option.some.inj h; exact .text s
    | null => obtain rfl := Option.some.inj h; exact .null
    | _ => cases h
  · rintro (⟨n, hge, hlt⟩ | s | _)
    · simp only [Id.ofJson?, Option.map_eq_some_iff, int64, intFrom_eq_some_iff, hlow, hhigh]
      exact ⟨n, ⟨⟨hge, Int.le_sub_one_of_lt hlt⟩, rfl⟩, rfl⟩
    · rfl
    · rfl

/-- What is made of the values of the fields of a message. -/
def Message.ofFields? (version method params id : Option Json) : Option Message :=
  (version.bind (word ["2.0"])).bind fun _ => (method.elim (some "") string).bind fun method =>
    (params.elim (some none) fun v => some (some v)).bind fun params =>
      (id.elim (some none) fun v => (Id.ofJson? v).map some).bind fun id =>
        some ⟨method, params, id⟩

theorem message_object (ms : List (String × Json)) : Message.ofJson? (.object ms) =
    Message.ofFields? (member? "jsonrpc" ms) (member? "method" ms) (member? "params" ms)
      (member? "id" ms) := by
  simp only [Message.ofJson?, ofJson?, Message.record, field_bind_named, fieldOr_bind_named,
    Message.ofFields?, Option.map_bind, Function.comp_def]
  rfl

theorem message_array_iff {vs : List Json} {m : Message} :
    Message.ofJson? (.array vs) = some m ↔
      vs.length ≤ 4 ∧ Message.ofFields? vs[0]? vs[1]? vs[2]? vs[3]? = some m := by
  rw [Message.ofJson?, ofJson?_array_eq_some_iff, Message.record]
  match vs with
  | [] =>
    constructor
    · intro h
      cases h
    · rintro ⟨-, h⟩
      cases h
  | [a] | [a, b] | [a, b, c] | [a, b, c, d] | a :: b :: c :: d :: e :: vs =>
    simp only [field_bind_inOrder, fieldOr_bind_inOrder, fieldOr_bind_inOrder_nil,
      Option.bind_eq_some_iff, pure_eq_some_iff]
    simp [Message.ofFields?, Option.bind_eq_some_iff]

theorem ofFields?_eq_some_iff {version name given number params : Option Json}
    (hne : method ≠ "") :
    Message.ofFields? version name given number = some ⟨method, params, id⟩ ↔
      version = some (.string "2.0") ∧ name = some (.string method) ∧ given = params ∧
        Option.Rel Id.WrittenAs id number := by
  have hversion : (∃ s, version.bind (word ["2.0"]) = some s) ↔
      version = some (.string "2.0") := by
    simp [Option.bind_eq_some_iff]
  have hname : name.elim (some "") string = some method ↔ name = some (.string method) := by
    cases name <;> simp [hne.symm]
  have hgiven : (given.elim (some none) fun v => some (some v)) = some params ↔
      given = params := by
    cases given <;> simp
  have hnumber : (number.elim (some none) fun v => (Id.ofJson? v).map some) = some id ↔
      Option.Rel Id.WrittenAs id number := by
    cases number <;> cases id <;> simp [id_eq_some_iff]
  unfold Message.ofFields?
  rw [← hversion, ← hname, ← hgiven, ← hnumber]
  simp only [Option.bind_eq_some_iff, Option.some.injEq, Message.mk.injEq]
  constructor
  · rintro ⟨s, hs, _, hmethod, _, hparams, _, hid, rfl, rfl, rfl⟩
    exact ⟨⟨s, hs⟩, hmethod, hparams, hid⟩
  · rintro ⟨⟨s, hs⟩, hmethod, hparams, hid⟩
    exact ⟨s, hs, _, hmethod, _, hparams, _, hid, rfl, rfl, rfl⟩

theorem message_eq_some_iff {params : Option Json} (hne : method ≠ "") :
    Message.ofJson? j = some ⟨method, params, id⟩ ↔ IsMessage method id params j := by
  cases j with
  | object ms =>
    simp [message_object, ofFields?_eq_some_iff hne, IsMessage, Json.fields?, and_assoc]
  | array vs =>
    rw [message_array_iff, ofFields?_eq_some_iff hne, IsMessage, Json.fields?]
    rcases vs with _ | ⟨a, _ | ⟨b, _ | ⟨c, _ | ⟨d, _ | ⟨e, vs⟩⟩⟩⟩⟩ <;> cases id <;>
      cases params <;> simp [and_assoc]
  | _ => simp [Message.ofJson?, ofJson?, IsMessage, Json.fields?]

/-! ### What messages tell -/

/-- What a message about a document tells, and the identifier by which it is to be answered. -/
inductive Tells : Option Id → Action → Json → Prop
  | opened {uri : Uri} {text : String} {params j : Json}
    (message : IsMessage "textDocument/didOpen" none (some params) j)
    (content : Opens uri text params) : Tells none (.opened uri text.toList) j
  | changed {uri : Uri} {texts : List String} {params j : Json}
    (message : IsMessage "textDocument/didChange" none (some params) j)
    (content : Changes uri texts params) : Tells none (.changed uri (texts.map String.toList)) j
  | closed {uri : Uri} {params j : Json}
    (message : IsMessage "textDocument/didClose" none (some params) j)
    (content : Closes uri params) : Tells none (.closed uri) j
  | complete {id : Id} {uri : Uri} {place : Position} {params j : Json}
    (message : IsMessage "textDocument/completion" (some id) (some params) j)
    (content : AsksCompletion uri place params) : Tells (some id) (.complete uri place) j
  | describe {id : Id} {uri : Uri} {place : Position} {params j : Json}
    (message : IsMessage "textDocument/hover" (some id) (some params) j)
    (content : AsksHover uri place params) : Tells (some id) (.describe uri place) j

/-- The document that an action is about. -/
def Action.document? : Action → Option Uri
  | .opened uri _ | .changed uri _ | .closed uri | .complete uri _ | .describe uri _ => some uri
  | _ => none

/-- A message asks for an action by its method, its kind and its parameters. -/
theorem asked?_eq_some_iff {a : Action} : asked? j = some a ↔
    ∃ m method, Message.ofJson? j = some m ∧ Method.ofName? m.method = some method ∧
      m.fits method = true ∧ method.action? m.params = some a := by
  simp only [asked?, Message.actionUnder?, Option.bind_eq_some_iff, Option.ite_none_right_eq_some]
  constructor
  · rintro ⟨m, hm, method, hn, hfits, ha⟩
    exact ⟨m, method, hm, hn, hfits, ha⟩
  · rintro ⟨m, method, hm, hn, hfits, ha⟩
    exact ⟨m, hm, method, hn, hfits, ha⟩

/-- A method that is answered has one name. -/
theorem mem_answered_of_ofName? {name : String} {method : Method}
    (h : Method.ofName? name = some method) (hu : ∀ u, method ≠ .unanswered u) :
    (name, method) ∈ Method.answered := by
  unfold Method.ofName? at h
  split at h
  · rename_i m hfind
    obtain rfl : m.1 = name := by simpa using List.find?_some hfind
    obtain rfl := Option.some.inj h
    exact List.mem_of_find?_eq_some hfind
  · obtain ⟨u, -, rfl⟩ := Option.map_eq_some_iff.mp h
    exact absurd rfl (hu u)

theorem asked?_of_isMessage {method : Method} {name : String} {a : Action} (hne : name ≠ "")
    (hj : IsMessage name id (some params) j) (hn : Method.ofName? name = some method)
    (hkind : id.isSome = (method.kind == .request)) (ha : method.action? (some params) = some a) :
    asked? j = some a ∧ idOf? j = id := by
  have hm := (message_eq_some_iff hne).mpr hj
  refine ⟨asked?_eq_some_iff.mpr ⟨_, method, hm, hn, ?_, ha⟩, by simp [idOf?, hm]⟩
  simp [Message.fits, hkind]

/-- A message tells what it asks for. -/
theorem asked?_of_tells {a : Action} (h : Tells id a j) : asked? j = some a ∧ idOf? j = id := by
  cases h with
  | opened message content =>
    refine asked?_of_isMessage (by decide) message rfl rfl ?_
    simp [Method.action?, given, openedDocument_eq_some_iff.mpr content]
  | changed message content =>
    refine asked?_of_isMessage (by decide) message rfl rfl ?_
    simp [Method.action?, given, changedDocument_eq_some_iff.mpr content]
  | closed message content =>
    refine asked?_of_isMessage (by decide) message rfl rfl ?_
    simp [Method.action?, given, closedDocument_eq_some_iff.mpr content]
  | complete message content =>
    refine asked?_of_isMessage (by decide) message rfl rfl ?_
    simp [Method.action?, given, completionPlace_eq_some_iff.mpr content]
  | describe message content =>
    refine asked?_of_isMessage (by decide) message rfl rfl ?_
    simp [Method.action?, given, hoverPlace_eq_some_iff.mpr content]

/-- The method by which a start or an action on a document is asked for, and its name. -/
def Action.call? : Action → Option (Method × String)
  | .start _ => some (.start, "initialize")
  | .opened _ _ => some (.opened, "textDocument/didOpen")
  | .changed _ _ => some (.changed, "textDocument/didChange")
  | .closed _ => some (.closed, "textDocument/didClose")
  | .complete _ _ => some (.complete, "textDocument/completion")
  | .describe _ _ => some (.describe, "textDocument/hover")
  | _ => none

/-- There is one method by which an action is asked for. It has one name, and wants parameters. -/
structure OnlyMethod (a : Action) (method : Method) (name : String) : Prop where
  only : ∀ other : Method, other.yields a = true → other = method
  named : ∀ other, (other, method) ∈ Method.answered → other = name
  answered : ∀ u, method ≠ .unanswered u
  nonempty : name ≠ ""
  given : method.action? none = none

theorem onlyMethod_of_call? {a : Action} {method : Method} {name : String}
    (h : a.call? = some (method, name)) : OnlyMethod a method name := by
  cases a <;> cases h <;>
    exact ⟨fun other => by cases other <;> simp [Method.yields], by simp [Method.answered],
      by simp, by decide, rfl⟩

theorem exists_isMessage {a : Action} {method : Method} {name : String}
    (h : a.call? = some (method, name)) (ha : asked? j = some a) :
    ∃ params, IsMessage name (idOf? j) (some params) j ∧
      (idOf? j).isSome = (method.kind == .request) ∧ method.action? (some params) = some a := by
  have only := onlyMethod_of_call? h
  obtain ⟨⟨called, params, id⟩, other, hm, hn, hfits, hact⟩ := asked?_eq_some_iff.mp ha
  obtain rfl := only.only other (yields_of_action? hact)
  obtain rfl := only.named called (mem_answered_of_ofName? hn only.answered)
  have hid : idOf? j = id := by simp [idOf?, hm]
  rw [hid]
  cases params with
  | none =>
    rw [only.given] at hact
    cases hact
  | some params =>
    refine ⟨params, (message_eq_some_iff only.nonempty).mp hm, ?_, hact⟩
    simpa [Message.fits] using hfits

theorem exists_notification {a : Action} {method : Method} {name : String}
    (h : a.call? = some (method, name)) (hkind : method.kind = .notification)
    (ha : asked? j = some a) : idOf? j = none ∧
      ∃ params, IsMessage name none (some params) j ∧ method.action? (some params) = some a := by
  obtain ⟨params, hj, hid, hact⟩ := exists_isMessage h ha
  have hnone : idOf? j = none := by
    rw [hkind] at hid
    exact Option.not_isSome_iff_eq_none.mp (Bool.not_eq_true _ ▸ hid)
  rw [hnone] at hj
  exact ⟨hnone, params, hj, hact⟩

theorem exists_request {a : Action} {method : Method} {name : String}
    (h : a.call? = some (method, name)) (hkind : method.kind = .request)
    (ha : asked? j = some a) : ∃ id, idOf? j = some id ∧ ∃ params,
      IsMessage name (some id) (some params) j ∧ method.action? (some params) = some a := by
  obtain ⟨params, hj, hid, hact⟩ := exists_isMessage h ha
  rw [hkind] at hid
  obtain ⟨id, hsome⟩ : ∃ id, idOf? j = some id := Option.isSome_iff_exists.mp hid
  rw [hsome] at hj
  exact ⟨id, hsome, params, hj, hact⟩

/-- What a message about a document asks for, it tells. -/
theorem tells_of_asked? {a : Action} (ha : asked? j = some a) (hd : a.document? = some uri) :
    Tells (idOf? j) a j := by
  cases a with
  | opened u text =>
    obtain ⟨hid, params, hj, hact⟩ := exists_notification rfl rfl ha
    obtain ⟨⟨v, s⟩, hp, heq⟩ := Option.map_eq_some_iff.mp hact
    obtain ⟨rfl, rfl⟩ := Action.opened.inj heq
    rw [hid]
    exact .opened hj (openedDocument_eq_some_iff.mp hp)
  | changed u texts =>
    obtain ⟨hid, params, hj, hact⟩ := exists_notification rfl rfl ha
    obtain ⟨⟨v, ss⟩, hp, heq⟩ := Option.map_eq_some_iff.mp hact
    obtain ⟨rfl, rfl⟩ := Action.changed.inj heq
    rw [hid]
    exact .changed hj (changedDocument_eq_some_iff.mp hp)
  | closed u =>
    obtain ⟨hid, params, hj, hact⟩ := exists_notification rfl rfl ha
    obtain ⟨v, hp, heq⟩ := Option.map_eq_some_iff.mp hact
    obtain rfl := Action.closed.inj heq
    rw [hid]
    exact .closed hj (closedDocument_eq_some_iff.mp hp)
  | complete u place =>
    obtain ⟨id, hid, params, hj, hact⟩ := exists_request rfl rfl ha
    obtain ⟨⟨v, p⟩, hp, heq⟩ := Option.map_eq_some_iff.mp hact
    obtain ⟨rfl, rfl⟩ := Action.complete.inj heq
    rw [hid]
    exact .complete hj (completionPlace_eq_some_iff.mp hp)
  | describe u place =>
    obtain ⟨id, hid, params, hj, hact⟩ := exists_request rfl rfl ha
    obtain ⟨⟨v, p⟩, hp, heq⟩ := Option.map_eq_some_iff.mp hact
    obtain ⟨rfl, rfl⟩ := Action.describe.inj heq
    rw [hid]
    exact .describe hj (hoverPlace_eq_some_iff.mp hp)
  | _ => cases hd

/-- A message about a document asks for what it tells, no more and no less. -/
theorem tells_iff {a : Action} (hd : a.document? = some uri) :
    Tells id a j ↔ asked? j = some a ∧ idOf? j = id := by
  constructor
  · exact asked?_of_tells
  · rintro ⟨ha, rfl⟩
    exact tells_of_asked? ha hd

theorem Tells.id_eq_none {a : Action} {method : Method} {name : String} (h : Tells id a j)
    (hcall : a.call? = some (method, name)) (hkind : method.kind = .notification) : id = none := by
  cases h <;> cases hcall <;> first | rfl | cases hkind

/-- What is no question is told by notifications alone. -/
theorem tells_none_iff {a : Action} {method : Method} {name : String} (hd : a.document? = some uri)
    (hcall : a.call? = some (method, name)) (hkind : method.kind = .notification) :
    Tells none a j ↔ asked? j = some a := by
  constructor
  · exact fun h => (asked?_of_tells h).1
  · intro h
    have hid : idOf? j = none := (tells_of_asked? h hd).id_eq_none hcall hkind
    exact (tells_iff hd).mpr ⟨h, hid⟩

/-! ### Messages that turn a session -/

theorem starts_iff {w : Workspace} : Starts w j ↔
    ∃ id params, IsMessage "initialize" (some id) (some params) j ∧ workspace params = some w := by
  constructor
  · intro h
    obtain ⟨id, -, params, hj, hact⟩ := exists_request rfl rfl h
    obtain ⟨v, hv, heq⟩ := Option.map_eq_some_iff.mp hact
    obtain rfl := Action.start.inj heq
    exact ⟨id, params, hj, hv⟩
  · rintro ⟨id, params, hj, hw⟩
    refine (asked?_of_isMessage (by decide) hj rfl rfl ?_).1
    simp [Method.action?, given, hw]

theorem methodOf?_eq_some_iff {method : Method} {name : String}
    (hname : Method.ofName? name = some method) (hne : name ≠ "")
    (only : ∀ other, Method.ofName? other = some method → other = name) :
    methodOf? j = some method ↔ ∃ id params, IsMessage name id params j := by
  simp only [methodOf?, Option.bind_eq_some_iff]
  constructor
  · rintro ⟨⟨called, params, id⟩, hm, hn⟩
    obtain rfl := only called hn
    exact ⟨id, params, (message_eq_some_iff hne).mp hm⟩
  · rintro ⟨id, params, hj⟩
    exact ⟨_, (message_eq_some_iff hne).mpr hj, hname⟩

theorem stops_iff : Stops j ↔ ∃ id params, IsMessage "shutdown" id params j := by
  refine methodOf?_eq_some_iff rfl (by decide) fun other h => ?_
  simpa [Method.answered] using mem_answered_of_ofName? h (by simp)

theorem exits_iff : Exits j ↔ ∃ id params, IsMessage "exit" id params j := by
  refine methodOf?_eq_some_iff rfl (by decide) fun other h => ?_
  simpa [Method.answered] using mem_answered_of_ofName? h (by simp)

end ModelineAssist.Server
