import QueryAlgebra.Proofs.Update.Policies
import QueryAlgebra.Proofs.Update.Proper
import QueryAlgebra.Store.Session

/-!
# What a store sends of an update

A store makes a request of an update only if it can write the update in full and the update does
something. The document to be sent is known from the leaves of the update:

* `value_updateDocument` — the first payload is the cause of failure, the want of directives is one
  too, and else there is the document of the update;
* `value_update` — a failure ends the operation before any request, a document goes into the one
  request there is;
* `Exchange.sent_run_of_nulKey?_eq_none`, `Exchange.sent_run_of_nulKey?_eq_some` — a request reaches
  the server, and its answer is read, unless there is a key in it that cannot be encoded.

Together these say when a request is made, what is in it and what comes of it, and what comes of the
operation otherwise (`update_requests`), whatever the filter and whatever the server would answer.
-/

namespace QueryAlgebra

namespace Store

/-! ### The document to be sent -/

/-- Whether there is a document to be sent depends on the leaves of the update: payloads come before
the want of directives. -/
theorem value_updateDocument (u : Update) :
    (updateDocument u).value =
      match u.payloads, u.directives with
      | v :: _, _ => .error (.unrecognizedUpdate v.render)
      | [], [] => .error .emptyUpdate
      | [], _ :: _ => .ok u.toDocument.value := by
  cases hp : u.payloads with
  | cons v rest =>
    rw [updateDocument, Logged.value_bind, tryToDocument_of_payloads_eq_cons hp]
    rfl
  | nil =>
    rw [updateDocument, Logged.value_bind, tryToDocument_of_payloads_eq_nil hp]
    cases hd : u.directives with
    | nil =>
      rw [(toDocument_eq_nil_iff u).mpr hd]
      rfl
    | cons d ds =>
      -- A document with an entry passes the guard as it is.
      have hne : u.toDocument.value ≠ [] := by
        rw [ne_eq, toDocument_eq_nil_iff, hd]
        exact List.cons_ne_nil d ds
      cases hdoc : u.toDocument.value with
      | nil => exact absurd hdoc hne
      | cons e entries => rfl

/-! ### The request -/

/-- What becomes of an update: it is refused before any request, or its document goes into the one
request there is, beside the document of the filter. -/
theorem value_update (s : Store) (server : Command → Reply) (many : Bool) (collection : String)
    (f : Filter) (u : Update) :
    (s.update server many collection f u).value =
      match u.payloads, u.directives with
      | v :: _, _ => .refused (.unrecognizedUpdate v.render)
      | [], [] => .refused .emptyUpdate
      | [], _ :: _ =>
        .run server (.update s.database collection f.toDocument.value u.toDocument.value many)
          Reply.updateCounts := by
  have hdocument := value_updateDocument u
  rw [update, Logged.value_bind, Logged.value_bind]
  -- The operation branches on the document as the document branches on the leaves.
  cases hp : u.payloads with
  | cons v rest =>
    rw [hp] at hdocument
    rw [hdocument]
    rfl
  | nil =>
    cases hd : u.directives with
    | nil =>
      rw [hp, hd] at hdocument
      rw [hdocument]
      rfl
    | cons d ds =>
      rw [hp, hd] at hdocument
      rw [hdocument]
      rfl

end Store

namespace Exchange

variable {α : Type} {server : Command → Reply} {c : Command} {read : Reply → Except QueryError α}

/-- A command that can be encoded goes to the server, whose answer is read. -/
theorem sent_run_of_nulKey?_eq_none (h : c.nulKey? = none) :
    (run server c read).sent = [c] ∧
      (run server c read).result = read (server c.transmitted).transmitted := by
  constructor
  · rw [sent, run, List.filter_singleton, h]
    rfl
  · rw [run, Command.answer, h]
    rfl

/-- A command that cannot be encoded does not go anywhere. -/
theorem sent_run_of_nulKey?_eq_some {key : String} (h : c.nulKey? = some key) :
    (run server c read).sent = [] ∧
      (run server c read).result = .error (.backend (QueryError.nulInKey key).detail) := by
  constructor
  · rw [sent, run, List.filter_singleton, h]
    rfl
  · rw [run, Command.answer, h]
    rfl

end Exchange

/-- **Only updates that are written in full are sent.** At most one request is made, and one is made
exactly if the update has a directive and no payload. It carries the documents of the filter and of
the update, and the latter is a well-formed update. The server gets this request and its answer is
the result, unless a key in the documents cannot be encoded, which is the failure then. If no
request is made, nothing is sent either, and the failure names the first payload, or says that there
are no directives. -/
theorem update_requests (s : Store) (server : Command → Reply) (many : Bool) (collection : String)
    (f : Filter) (u : Update) :
    let exchange := (s.update server many collection f u).value
    let command :=
      Command.update s.database collection f.toDocument.value u.toDocument.value many
    exchange.requested.length ≤ 1 ∧
      (exchange.requested ≠ [] ↔ u.directives ≠ [] ∧ u.payloads = []) ∧
      (∀ c ∈ exchange.requested, c = command ∧ u.toDocument.value.IsUpdate) ∧
      (u.directives ≠ [] → u.payloads = [] →
        exchange = .run server command Reply.updateCounts ∧ exchange.requested = [command] ∧
          (command.nulKey? = none → exchange.sent = [command] ∧
            exchange.result = (server command.transmitted).transmitted.updateCounts) ∧
          ∀ key, command.nulKey? = some key → exchange.sent = [] ∧
            exchange.result = .error (.backend (QueryError.nulInKey key).detail)) ∧
      (∀ v, u.payloads.head? = some v →
        exchange = .refused (.unrecognizedUpdate v.render) ∧ exchange.sent = [] ∧
          exchange.result = .error (.unrecognizedUpdate v.render) ∧
          (QueryError.unrecognizedUpdate v.render).message =
            ErrorKind.unrecognizedUpdate.message v.render) ∧
      (u.payloads = [] → u.directives = [] →
        exchange = .refused .emptyUpdate ∧ exchange.sent = [] ∧
          exchange.result = .error .emptyUpdate ∧
          QueryError.emptyUpdate.kind = .serialization) := by
  intro exchange command
  have hexchange : exchange = _ := s.value_update server many collection f u
  clear_value exchange
  cases hp : u.payloads with
  | cons v rest =>
    rw [hp] at hexchange
    have hnone : exchange.requested = [] := by rw [hexchange]; rfl
    refine ⟨by simp [hnone], by simp [hnone], by simp [hnone], by simp, fun w hw => ?_, by simp⟩
    rw [List.head?_cons, Option.some.injEq] at hw
    subst hw
    subst hexchange
    exact ⟨rfl, rfl, rfl, rfl⟩
  | nil =>
    cases hd : u.directives with
    | nil =>
      rw [hp, hd] at hexchange
      subst hexchange
      have hnone : (Exchange.refused .emptyUpdate : Exchange UpdateCounts).requested = [] := rfl
      refine ⟨by simp [hnone], by simp [hnone], by simp [hnone], by simp, by simp, ?_⟩
      exact fun _ _ => ⟨rfl, rfl, rfl, rfl⟩
    | cons d ds =>
      rw [hp, hd] at hexchange
      change exchange = .run server command Reply.updateCounts at hexchange
      have hrequested : exchange.requested = [command] := by rw [hexchange]; rfl
      have hupdate : u.toDocument.value.IsUpdate := by
        rw [isUpdate_toDocument_iff, hd]
        exact List.cons_ne_nil d ds
      refine ⟨by simp [hrequested], by simp [hrequested], by simp [hrequested, hupdate],
        fun _ _ => ⟨hexchange, hrequested, fun hkey => ?_, fun key hkey => ?_⟩, by simp, by simp⟩
      · rw [hexchange]
        exact Exchange.sent_run_of_nulKey?_eq_none hkey
      · rw [hexchange]
        exact Exchange.sent_run_of_nulKey?_eq_some hkey

/-- A store without servers to speak of, and a condition to select by. -/
def Store.sample : Store := ⟨[], "shop"⟩

def Filter.unnamed : Filter := .equals ⟨"name"⟩ .null

/-- Four updates: one within brackets, one of a key that cannot be encoded, the first with a payload
behind it, and brackets alone. -/
theorem update_requests_sample :
    let server : Command → Reply := fun _ => .counts 3 1
    let named := Update.combined [.combined [], .directive ⟨.set, ⟨"name"⟩, .string "x"⟩]
    let cut := Update.directive ⟨.set, ⟨"na\x00me"⟩, .string "x"⟩
    let spoilt := named.and [.unrecognized (.int32 7), .unrecognized .null]
    let nothing := Update.combined [.combined [], .combined []]
    let run := fun u => (Store.sample.update server true "items" Filter.unnamed u).value
    let command := fun u : Update => Command.update "shop" "items" Filter.unnamed.toDocument.value
      u.toDocument.value true
    (command named ∈ (run named).requested ∧ named.toDocument.value.IsUpdate) ∧
      ((run named).sent = [command named] ∧ (run named).result = .ok ⟨3, 1⟩) ∧
      ((run cut).sent = [] ∧
        (run cut).result = .error (.backend (QueryError.nulInKey "na\x00me").detail)) ∧
      (spoilt.payloads.head? = some (.int32 7) ∧ (run spoilt).sent = [] ∧
        run spoilt = .refused (.unrecognizedUpdate "7")) ∧
      nothing.payloads = [] ∧ nothing.directives = [] ∧ run nothing = .refused .emptyUpdate := by
  intro server named cut spoilt nothing run command
  have hnamed := update_requests Store.sample server true "items" Filter.unnamed named
  have hcut := update_requests Store.sample server true "items" Filter.unnamed cut
  have hspoilt := update_requests Store.sample server true "items" Filter.unnamed spoilt
  have hnothing := update_requests Store.sample server true "items" Filter.unnamed nothing
  have hcommand : command named ∈ (run named).requested := List.mem_singleton.mpr rfl
  obtain ⟨-, -, hnamedAnswer, -⟩ := hnamed.2.2.2.1 (List.cons_ne_nil _ _) rfl
  obtain ⟨-, -, -, hcutAnswer⟩ := hcut.2.2.2.1 (List.cons_ne_nil _ _) rfl
  obtain ⟨hrefused, hunsent, -, -⟩ := hspoilt.2.2.2.2.1 (.int32 7) rfl
  have htext : (Value.int32 7).render = "7" := by decide
  rw [htext] at hrefused
  exact ⟨⟨hcommand, (hnamed.2.2.1 _ hcommand).2⟩, hnamedAnswer rfl, hcutAnswer _ rfl,
    ⟨rfl, hunsent, hrefused⟩, rfl, rfl, (hnothing.2.2.2.2.2 rfl rfl).1⟩

end QueryAlgebra
