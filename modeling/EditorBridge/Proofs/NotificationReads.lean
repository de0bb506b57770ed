import EditorBridge.Proofs.JsonReads
import EditorBridge.Session

/-!
Which messages are notifications, and what becomes of a message. A message is a notification if it
spells an object with the fields of one and no others, or a list of these fields; only the
parameters of a notification that asks to run a command ever reach that command.
-/

namespace EditorBridge

namespace Json

def Spells (text : String) (value : Value) : Prop :=
  ∃ x : Tree, valueMeaning depthLimit x = some value ∧ Spaced x.tokens text.toList

theorem Spells.unique {text : String} {v w : Value} (hv : Spells text v) (hw : Spells text w) :
    v = w := by
  have h := (parseWith_ok_iff reads_value).mpr hv
  rw [(parseWith_ok_iff reads_value).mpr hw] at h
  exact (Except.ok.inj h).symm

end Json

open Json (Value Spells)

namespace Message

/-! ### Fields -/

/-- The value that a name has among members, if it is there; it is not there twice. -/
inductive HasOnly (name : String) (members : List (String × Value)) : Option Value → Prop where
  | missing : (∀ m ∈ members, m.1 ≠ name) → HasOnly name members none
  | once (front back : List (String × Value)) (value : Value) :
      members = front ++ (name, value) :: back → (∀ m ∈ front ++ back, m.1 ≠ name) →
      HasOnly name members (some value)

theorem only_eq_some_iff {name : String} {members : List (String × Value)}
    {value : Option Value} :
    only? name members = some value ↔ HasOnly name members value := by
  constructor
  · intro h
    unfold only? at h
    split at h
    · rename_i hf
      obtain rfl : none = value := by simpa using h
      exact .missing fun m hm => by simpa using List.filter_eq_nil_iff.mp hf m hm
    · rename_i other v hf
      obtain rfl : some v = value := by simpa using h
      obtain ⟨front, back, rfl, hfr, ho, hb⟩ := List.filter_eq_cons_iff.mp hf
      obtain rfl : other = name := by simpa using ho
      refine .once front back v rfl fun m hm => ?_
      obtain hm | hm := List.mem_append.mp hm
      · simpa using hfr m hm
      · simpa using List.filter_eq_nil_iff.mp hb m hm
    · simp at h
  · rintro (hm | ⟨front, back, v, rfl, hn⟩)
    · have hf : (members.filter fun m => m.1 = name) = [] :=
        List.filter_eq_nil_iff.mpr fun m h => by simpa using hm m h
      simp [only?, hf]
    · have hf : ((front ++ (name, v) :: back).filter fun m => m.1 = name) = [(name, v)] := by
        refine List.filter_eq_cons_iff.mpr ⟨front, back, rfl, fun m hm => ?_, by simp, ?_⟩
        · simpa using hn m (List.mem_append_left _ hm)
        · exact List.filter_eq_nil_iff.mpr fun m hm => by
            simpa using hn m (List.mem_append_right _ hm)
      simp [only?, hf]

/-- What is handed on of the parameters of a message. -/
inductive Hands : Option Value → Value → Prop where
  | missing : Hands none .null
  | null : Hands (some .null) .null
  | array (items : List Value) : Hands (some (.array items)) (Value.array items).settled
  | object (members : List (String × Value)) :
      Hands (some (.object members)) (Value.object members).settled

/-- Whether the values of fields, of which some may be missing, are those of a notification. -/
structure AreFields (version method params : Option Value) (n : Notification) : Prop where
  version : version = none ∨ version = some .null ∨ version = some (.string "2.0")
  method : method = some (.string n.method)
  params : Hands params n.params

theorem isVersion_getD_iff (version : Option Value) :
    isVersion (version.getD .null) = true ↔
      version = none ∨ version = some .null ∨ version = some (.string "2.0") := by
  cases version with
  | none => simp [isVersion]
  | some value => cases value <;> simp [isVersion]

theorem params_getD_iff {params : Option Value} {value : Value} :
    params? (params.getD .null) = some value ↔ Hands params value := by
  constructor
  · intro h
    cases params with
    | none =>
      obtain rfl : Value.null = value := by simpa [params?] using h
      exact .missing
    | some v =>
      cases v with
      | null =>
        obtain rfl : Value.null = value := by simpa [params?] using h
        exact .null
      | array items =>
        obtain rfl : (Value.array items).settled = value := by simpa [params?] using h
        exact .array items
      | object members =>
        obtain rfl : (Value.object members).settled = value := by simpa [params?] using h
        exact .object members
      | _ => simp [params?] at h
  · rintro (_ | _) <;> rfl

theorem notification_getD_iff {version params : Option Value} {method : Value}
    {n : Notification} :
    notification? (version.getD .null) method (params.getD .null) = some n ↔
      AreFields version (some method) params n := by
  constructor
  · intro h
    unfold notification? at h
    split at h
    · rename_i name settled hp
      split at h
      · rename_i hv
        obtain rfl := Option.some.inj h
        exact ⟨(isVersion_getD_iff version).mp hv, rfl, params_getD_iff.mp hp⟩
      · simp at h
    · simp at h
  · rintro ⟨hv, hm, hp⟩
    obtain rfl := Option.some.inj hm
    simp [notification?, params_getD_iff.mpr hp, (isVersion_getD_iff version).mpr hv]

/-! ### Notifications -/

inductive IsNotification : Value → Notification → Prop where
  | object {members : List (String × Value)} {version method params : Option Value}
      {n : Notification} : (∀ m ∈ members, m.1 ∈ ["jsonrpc", "method", "params"]) →
      HasOnly "jsonrpc" members version → HasOnly "method" members method →
      HasOnly "params" members params → AreFields version method params n →
      IsNotification (.object members) n
  | pair {version method : Value} {n : Notification} :
      AreFields (some version) (some method) none n → IsNotification (.array [version, method]) n
  | triple {version method params : Value} {n : Notification} :
      AreFields (some version) (some method) (some params) n →
      IsNotification (.array [version, method, params]) n

theorem inMembers_iff {members : List (String × Value)} {n : Notification} :
    inMembers? false members = some n ↔ IsNotification (.object members) n := by
  have he : inMembers? false members = some n ↔
      (∀ name value, (name, value) ∈ members → name ∈ fields false) ∧
        ∃ version, HasOnly "jsonrpc" members version ∧ ∃ method?, HasOnly "method" members method? ∧
          ∃ params, HasOnly "params" members params ∧ ∃ method, method? = some method ∧
            AreFields version (some method) params n := by
    simp only [← only_eq_some_iff, ← notification_getD_iff]
    simp [inMembers?, Option.bind_eq_some_iff]
  rw [he]
  constructor
  · rintro ⟨hk, version, hv, -, hm, params, hp, method, rfl, hf⟩
    exact .object (fun m h => hk m.1 m.2 h) hv hm hp hf
  · rintro ⟨hk, hv, hm, hp, hf⟩
    obtain rfl := hf.method
    exact ⟨fun name value h => hk _ h, _, hv, _, hm, _, hp, _, rfl, hf⟩

/-- An object without an identifier is no request. -/
theorem request_eq_none {members : List (String × Value)}
    (h : ∀ m ∈ members, m.1 ∈ ["jsonrpc", "method", "params"]) : request? members = none := by
  have hn : HasOnly "id" members none := .missing fun m hm he => by
    simpa [he] using h m hm
  simp [request?, only_eq_some_iff.mpr hn]

theorem ofMembers_iff {members : List (String × Value)} {n : Notification} :
    ofMembers? members = some (.notification n) ↔ IsNotification (.object members) n := by
  rw [← inMembers_iff]
  unfold ofMembers?
  constructor
  · intro h
    split at h
    · rename_i r hr
      obtain rfl := Option.some.inj h
      simp [request?, Option.bind_eq_some_iff] at hr
    · rename_i hi
      simpa [hi] using h
    · simp [Option.bind_eq_some_iff, Option.map_eq_some_iff] at h
  · intro h
    obtain ⟨hk, -⟩ := inMembers_iff.mp h
    simp [request_eq_none hk, h]

theorem map_notification_iff {found : Option Notification} {n : Notification} :
    found.map Message.notification = some (.notification n) ↔ found = some n := by
  cases found <;> simp

theorem ofItems_iff {items : List Value} {n : Notification} :
    ofItems? items = some (.notification n) ↔ IsNotification (.array items) n := by
  constructor
  · intro h
    unfold ofItems? at h
    split at h
    · rename_i version method
      have hn := map_notification_iff.mp h
      exact .pair ((@notification_getD_iff (some version) none method n).mp hn)
    · rename_i version method params
      have hn := map_notification_iff.mp h
      exact .triple ((@notification_getD_iff (some version) (some params) method n).mp hn)
    · simp [Option.bind_eq_some_iff] at h
    · simp at h
  · intro h
    cases h with
    | pair hf => simpa [ofItems?] using notification_getD_iff.mpr hf
    | triple hf => simpa [ofItems?] using notification_getD_iff.mpr hf

theorem ofValue_iff {value : Value} {n : Notification} :
    ofValue? value = some (.notification n) ↔ IsNotification value n := by
  cases value with
  | object members => exact ofMembers_iff
  | array items => exact ofItems_iff
  | _ =>
    refine ⟨fun h => by simp [ofValue?] at h, fun h => ?_⟩
    cases h

/-- A member that a notification has not, such as an identifier, or parameters that are neither a
list nor an object. -/
inductive Excludes (members : List (String × Value)) : Prop where
  | id (value : Value) : ("id", value) ∈ members → Excludes members
  | other (name : String) (value : Value) : (name, value) ∈ members →
      name ∉ ["jsonrpc", "method", "params"] → Excludes members
  | string (s : String) : ("params", .string s) ∈ members → Excludes members
  | number (x : Json.Number) : ("params", .number x) ∈ members → Excludes members
  | bool (b : Bool) : ("params", .bool b) ∈ members → Excludes members

/-- The parameters of a notification are a list, an object or `null`. -/
theorem IsNotification.params_of_mem {members : List (String × Value)} {n : Notification}
    (h : IsNotification (.object members) n) {value : Value} (hv : ("params", value) ∈ members) :
    Hands (some value) n.params := by
  obtain ⟨-, -, -, hp, hf⟩ := h
  cases hp with
  | missing hn => exact absurd rfl (hn _ hv)
  | once front back only he hn =>
    subst he
    obtain hv | hv := List.mem_append.mp hv
    · exact absurd rfl (hn _ (List.mem_append_left _ hv))
    · obtain hv | hv := List.mem_cons.mp hv
      · obtain rfl : value = only := by simpa using hv
        exact hf.params
      · exact absurd rfl (hn _ (List.mem_append_right _ hv))

theorem Excludes.not_isNotification {members : List (String × Value)} (h : Excludes members)
    (n : Notification) : ¬IsNotification (.object members) n := by
  intro hn
  have hk : ∀ m ∈ members, m.1 ∈ ["jsonrpc", "method", "params"] := by
    obtain ⟨hk, -⟩ := hn
    exact hk
  cases h with
  | id value hm => exact absurd (hk _ hm) (by simp)
  | other name value hm ho => exact ho (hk _ hm)
  | string s hm => cases hn.params_of_mem hm
  | number x hm => cases hn.params_of_mem hm
  | bool b hm => cases hn.params_of_mem hm

theorem read_ok_iff {depth : Nat} {s rest : List Char} {message : Message} :
    read depth s = .ok (message, rest) ↔
      ∃ value, Json.value depth s = .ok (value, rest) ∧ ofValue? value = some message := by
  unfold read
  cases Json.value depth s with
  | error fault => simp
  | ok found =>
    obtain ⟨value, r⟩ := found
    cases ho : ofValue? value with
    | none =>
      simp only [ho, Json.complain, reduceCtorEq, false_iff]
      rintro ⟨v, hv, hm⟩
      obtain ⟨rfl, rfl⟩ : value = v ∧ r = rest := by simpa using hv
      simp [ho] at hm
    | some m =>
      simp only [ho]
      constructor
      · intro h
        obtain ⟨rfl, rfl⟩ : m = message ∧ r = rest := by simpa using h
        exact ⟨value, rfl, ho⟩
      · rintro ⟨v, hv, hm⟩
        obtain ⟨rfl, rfl⟩ : value = v ∧ r = rest := by simpa using hv
        obtain rfl : m = message := Option.some.inj (ho.symm.trans hm)
        rfl

/-- A message is read from all texts of its value. -/
theorem reads_message :
    Json.Reads read fun depth x => (Json.valueMeaning depth x).bind ofValue? where
  json hx := by
    obtain ⟨value, hv, -⟩ := Option.bind_eq_some_iff.mp hx
    exact Json.valueMeaning_isJson hv
  complete hx hf hs := by
    obtain ⟨value, hv, hm⟩ := Option.bind_eq_some_iff.mp hx
    obtain ⟨r, hr, hsp⟩ := Json.reads_value.complete hv hf hs
    exact ⟨r, read_ok_iff.mpr ⟨value, hr, hm⟩, hsp⟩
  sound h := by
    obtain ⟨value, hr, hm⟩ := read_ok_iff.mp h
    obtain ⟨x, hx, hsp⟩ := Json.reads_value.sound hr
    exact ⟨x, by simp [hx, hm], hsp⟩

end Message

namespace Notification

open Message

/-- The notifications among all texts. -/
theorem parse_ok_iff {text : String} {n : Notification} :
    parse text = .ok n ↔ ∃ value, Spells text value ∧ IsNotification value n := by
  have hr : Json.parseWith Message.read text = .ok (.notification n) ↔
      ∃ value, Spells text value ∧ IsNotification value n := by
    rw [Json.parseWith_ok_iff reads_message]
    constructor
    · rintro ⟨x, hx, hs⟩
      obtain ⟨value, hv, hm⟩ := Option.bind_eq_some_iff.mp hx
      exact ⟨value, ⟨x, hv, hs⟩, ofValue_iff.mp hm⟩
    · rintro ⟨value, ⟨x, hv, hs⟩, hn⟩
      exact ⟨x, by simp [hv, ofValue_iff.mpr hn], hs⟩
  rw [← hr]
  unfold parse
  split <;> simp_all

end Notification

namespace Session

open Message

theorem receive_error (session : Session) {text reason : String}
    (h : Notification.parse text = .error reason) :
    session.receive text = (session, [], some (.notNotification reason)) := by simp [receive, h]

/-- A notification that asks to run a command makes its calls and has its outcome. -/
theorem receive_execute (session : Session) {text : String} {n : Notification}
    (h : Notification.parse text = .ok n) (hm : n.method = Notification.executeClientCommand) :
    let response := ClientCommand.execute n.params
    session.receive text = ((handleAll response.calls session).1,
      response.logs ++ (handleAll response.calls session).2,
      response.failure.map .unreadableReport) := by
  simp [receive, h, Notification.dispatch, hm]

theorem receive_unsupported (session : Session) {text : String} {n : Notification}
    (h : Notification.parse text = .ok n) (hm : n.method ≠ Notification.executeClientCommand) :
    session.receive text =
      (session, [.warning ("Unsupported method from language server: " ++ n.method)], none) := by
  simp [receive, h, Notification.dispatch, hm, Response.warn]

/-- Texts that spell a notification are those that are parsed. One with the method of client commands
is executed with its parameters, one with any other method is warned about, and all other texts are
refused and leave the session as it is. Among these are all objects with an identifier, with another
member that a notification has not, or with a single value for parameters. -/
theorem receive_reaches (session : Session) (text : String) :
    (∀ n, Notification.parse text = .ok n ↔
      ∃ value, Spells text value ∧ IsNotification value n) ∧
    (∀ n, Notification.parse text = .ok n → n.method = "metals/executeClientCommand" →
      let response := ClientCommand.execute n.params
      session.receive text = ((handleAll response.calls session).1,
        response.logs ++ (handleAll response.calls session).2,
        response.failure.map .unreadableReport)) ∧
    (∀ n, Notification.parse text = .ok n → n.method ≠ "metals/executeClientCommand" →
      session.receive text =
        (session, [.warning ("Unsupported method from language server: " ++ n.method)], none)) ∧
    (∀ reason, Notification.parse text = .error reason →
      session.receive text = (session, [], some (.notNotification reason))) ∧
    ∀ members, Spells text (.object members) → Excludes members →
      ∃ reason, Notification.parse text = .error reason := by
  refine ⟨fun n => Notification.parse_ok_iff, fun n => session.receive_execute,
    fun n => session.receive_unsupported, fun reason => session.receive_error, ?_⟩
  intro members hs he
  cases hp : Notification.parse text with
  | error reason => exact ⟨reason, rfl⟩
  | ok n =>
    obtain ⟨value, hv, hn⟩ := Notification.parse_ok_iff.mp hp
    obtain rfl := hv.unique hs
    exact absurd hn (he.not_isNotification n)

end Session

end EditorBridge
