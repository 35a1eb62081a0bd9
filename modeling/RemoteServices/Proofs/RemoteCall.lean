import RemoteServices.Http.Client
import RemoteServices.Proofs.Handlers
import RemoteServices.Proofs.Publication
import RemoteServices.Proofs.Routing

/-!
# Calls over HTTP

A call over HTTP passes the URL of an endpoint, the path that a server finds in it, the registry and
the status of the response.  Where the network changes nothing of this, `Registry.Told.remote_calls`
says that it runs the handler of the export that was described, once and on the payload of the call,
and gives what the handler gives.
-/
namespace RemoteServices

variable {O : Objects}

namespace Http

variable {m : Type → Type} [Monad m]

/-- Requests for a target are answered by a server.  What is on the way leaves alone the method, the
path and the body of a request, and the status and the body of a response. -/
def Carries (network : Request → m (Except CallError Response)) (server : Request → m Response)
    (target : String) : Prop :=
  ∀ method body, ∃ (q : Request) (back : Response → Response),
    q.method = method ∧ pathOf q.target.toList = pathOf target.toList ∧ q.body = body ∧
    (∀ a, (back a).status = a.status ∧ (back a).body = a.body) ∧
    network ⟨method, target, body⟩ = (fun a => .ok (back a)) <$> server q

/-- A URL names a service: it is that of an endpoint of the service, or a server reads it as one. -/
def Names (url : String) (n : ServiceId) : Prop :=
  (∃ interface, callOf? (pathOf url.toList) = some (n, interface)) ∨
    ∃ (l : Location) (interface : String) (u : Url),
    l.endpointUrl n interface = .ok u ∧ url = u.render

theorem Response.toReply_congr {a b : Response} (hstatus : a.status = b.status)
    (hbody : a.body = b.body) :
    a.toReply = b.toReply := by
  obtain ⟨status, contentType, allow, body⟩ := a
  obtain ⟨status', contentType', allow', body'⟩ := b
  cases hstatus
  cases hbody
  rfl

theorem transact_eq [LawfulMonad m] {network : Request → m (Except CallError Response)}
    {server : Request → m Response} {d : Endpoint} {url : String}
    (hurl : d.property? Key.httpUrl = some url) (hcarries : Carries network server url)
    (payload : Payload) :
    ∃ q : Request, q.method = "POST" ∧ pathOf q.target.toList = pathOf url.toList ∧
      q.body = payload ∧
      transact network d payload = Response.toReply <$> server q := by
  obtain ⟨q, back, hmethod, hpath, hbody, hback, hnetwork⟩ := hcarries "POST" payload
  refine ⟨q, hmethod, hpath, hbody, ?_⟩
  have hreply (a : Response) :
      (Except.ok (back a) : Except CallError Response).bind Response.toReply = a.toReply :=
    Response.toReply_congr (hback a).1 (hback a).2
  rw [transact, hurl]
  simp only [hnetwork, bind_pure_comp, Functor.map_map, hreply]

variable {Handler : Type} {find : ServiceId → String → Option Handler}

/-- Where nothing is found for a service, a URL that names it leads nowhere. -/
theorem dispatch_of_names {url : String} {n : ServiceId} (hnames : Names url n)
    (hfind : ∀ interface, find n interface = none) {q : Request} (hmethod : q.method = "POST")
    (hpath : pathOf q.target.toList = pathOf url.toList) (hsize : q.body.size ≤ maxBodySize) :
    dispatch find q = .error .notFound := by
  have hcalled {interface : String} (hcall : callOf? (pathOf url.toList) = some (n, interface)) :
      dispatch find q = .error .notFound := by
    rw [← hpath] at hcall
    rw [dispatch_of_callOf? hmethod hcall hsize, hfind]
    rfl
  rcases hnames with ⟨interface, hcall⟩ | ⟨l, interface, u, hu, rfl⟩
  · exact hcalled hcall
  · rcases Location.captures?_or_callOf?_endpointUrl hu with hnone | ⟨other, hcall⟩
    · rw [← hpath] at hnone
      exact dispatch_of_captures?_eq_none hnone
    · exact hcalled hcall

variable [LawfulMonad m] {handle : Handler → Payload → m (Option Payload)}

theorem toReply_serve_of_ok {q : Request} {handler : Handler} (h : dispatch find q = .ok handler) :
    Response.toReply <$> serve find handle q =
      (fun reply => .ok ⟨200, reply.getD .empty⟩) <$> handle handler q.body := by
  have hreply (reply : Option Payload) : (Response.ofReply reply).toReply =
      .ok ⟨200, reply.getD .empty⟩ := by
    cases reply <;> rfl
  rw [serve, h]
  simp only [bind_pure_comp, Functor.map_map, hreply]

theorem toReply_serve_of_notFound {q : Request} (h : dispatch find q = .error .notFound) :
    Response.toReply <$> serve find handle q = pure (.error (.remoteFault 404 "Not Found")) := by
  rw [serve, h]
  simp only [map_pure]
  rfl

end Http

/-- The endpoints of a process are reached over HTTP; where, may change. -/
structure Environment.UsesHttp (env : Environment O) : Prop where
  configurationType : env.configurationType = Key.httpConfigurationType
  connection : ∀ j n interface, ∃ l : Http.Location,
    env.connection j n interface = l.connection n interface

namespace Registry.Told

open Http

variable {frameworkUuid : String} {importLocalEndpoints : Bool} {ops : List (Operation O)}
  {r : Registry O}

theorem httpUrl_of_mem (h : r.Told Environment.UsesHttp frameworkUuid importLocalEndpoints ops)
    {e : Export O} (he : e ∈ r.exports) :
    ∃ (l : Location) (u : Url), l.endpointUrl e.serviceId e.interface = .ok u ∧
      e.description.property? Key.httpUrl = some u.render := by
  obtain ⟨service, horigin, -⟩ := h.origin he
  obtain ⟨env, r₀, henv, -, hmade⟩ := horigin.made
  obtain ⟨i, j, connection, hconnection, hdescription⟩ := hmade.described
  obtain ⟨l, hl⟩ := henv.connection j e.serviceId e.interface
  rw [hl] at hconnection
  obtain ⟨u, hu, hconnection⟩ := bind_eq_ok.mp hconnection
  cases hconnection
  refine ⟨l, u, hu, ?_⟩
  rw [Endpoint.property?, Export.get?_properties hdescription, Export.publishedValue,
    Properties.get?_set_self]
  rfl

variable {m : Type → Type} [Monad m] [LawfulMonad m]
  {network : Request → m (Except CallError Response)}
  {handle : O.Handler → Payload → m (Option Payload)}

/-- A call of a live export, whose interface can be a segment, runs its handler on the payload and
gives the reply. A call of a service of which nothing is exported runs none. -/
theorem remote_calls (h : r.Told Environment.UsesHttp frameworkUuid importLocalEndpoints ops)
    {payload : Payload} (hpayload : payload.size ≤ maxBodySize) :
    (∀ e ∈ r.exports, e.interface ≠ "." → e.interface ≠ ".." →
      (∀ c ∈ e.interface.toList, c ≠ '\t' ∧ c ≠ '\n' ∧ c ≠ '\x0d') →
      (∀ url, e.description.property? Key.httpUrl = some url →
        Carries network (serve r.findHandler handle) url) →
      transact network e.description payload =
        (fun reply => .ok ⟨200, reply.getD .empty⟩) <$> handle e.handler payload) ∧
    ∀ (d : Endpoint) (url : String) (n : ServiceId),
      d.property? Key.httpUrl = some url → Names url n →
      (∀ e ∈ r.exports, e.serviceId ≠ n) → Carries network (serve r.findHandler handle) url →
      transact network d payload = pure (.error (.remoteFault 404 "Not Found")) := by
  refine ⟨fun e he hhere habove hplain hcarries => ?_, fun d url n hurl hnames hgone hcarries => ?_⟩
  · obtain ⟨l, u, hu, hurl⟩ := h.httpUrl_of_mem he
    have hroutable : Routable e.interface := by
      obtain ⟨service, horigin, -⟩ := h.origin he
      obtain ⟨interfaces, hselect, hinterface⟩ := horigin.selected
      exact ⟨(isItem_of_selectInterfaces hselect hinterface).nonempty, hhere, habove, hplain⟩
    obtain ⟨q, hmethod, hpath, hbody, htransact⟩ := transact_eq hurl (hcarries _ hurl) payload
    have hcall : callOf? (pathOf q.target.toList) = some (e.serviceId, e.interface) := by
      rw [hpath, Location.callOf?_endpointUrl hu hroutable]
    have hdispatch : dispatch r.findHandler q = .ok e.handler := by
      rw [dispatch_of_callOf? hmethod hcall (hbody.symm ▸ hpayload),
        findHandler_of_answers h.reachable.matched (answers_self he)]
      rfl
    rw [htransact, toReply_serve_of_ok hdispatch, hbody]
  · obtain ⟨q, hmethod, hpath, hbody, htransact⟩ := transact_eq hurl hcarries payload
    have hdispatch : dispatch r.findHandler q = .error .notFound :=
      dispatch_of_names hnames (findHandler_eq_none hgone) hmethod hpath (hbody.symm ▸ hpayload)
    rw [htransact, toReply_serve_of_notFound hdispatch]

/-- Handlers note what they are called with.  The second of two interfaces of a service has a name
that is escaped in the URL; nothing is exported of service 9. -/
theorem remote_calls_escaped :
    ∃ (env : Environment ⟨Unit, String, Empty⟩) (ops : List (Operation ⟨Unit, String, Empty⟩))
      (r : Registry ⟨Unit, String, Empty⟩) (e : Export ⟨Unit, String, Empty⟩) (d : Endpoint)
      (network : Request → StateM (List (String × Payload)) (Except CallError Response)),
      env.UsesHttp ∧ r.Told Environment.UsesHttp "here" false ops ∧ e ∈ r.exports ∧
      e.interface = "b/c %2F" ∧
      transact network e.description "hello".toUTF8 [] =
        (.ok ⟨200, "b/c %2F".toUTF8⟩, [("b/c %2F", "hello".toUTF8)]) ∧
      transact network d "hello".toUTF8 [] = (.error (.remoteFault 404 "Not Found"), []) := by
  let l : Location := .ofSettings { advertiseHost := some "::1" }
  let base : Url :=
    ⟨none, .address (.v6 ⟨[0, 0, 0, 0, 0, 0, 0, 1], rfl⟩), some 8888, [[]], none, none⟩
  have hbase : l.base = .ok base := by cbv
  let url (n : ServiceId) (interface : String) : String :=
    (base.withPath ["service".toList, (Text.int64Text n).toList, interface.toList]).render
  let env : Environment ⟨Unit, String, Empty⟩ := {
    configurationType := Key.httpConfigurationType
    freshId := fun j => Uuid.ofRandom 3 (.ofNat j.length)
    connection := fun _ n interface => .ok ((∅ : Properties).set Key.httpUrl (url n interface))
    wrap := fun _ _ _ d => .ok d.interface
    proxy := fun _ _ _ => .error "no proxies" }
  have henv : env.UsesHttp := by
    refine ⟨rfl, fun _ n interface => ⟨l, ?_⟩⟩
    rw [Location.connection, Location.endpointUrl, hbase]
    rfl
  let ops : List (Operation ⟨Unit, String, Empty⟩) :=
    [.addExportFactory ⟨"f", "A"⟩ ∅, .addExportFactory ⟨"g", "b/c %2F"⟩ ∅,
      .addService () (.ofList [(Key.serviceId, "7"), (Key.objectClass, "A, b/c %2F"),
        (Key.exportedInterfaces, "*")]), .reconcile]
  let handle (handler : String) (payload : Payload) : StateM (List (String × Payload))
    (Option Payload) := do
    modify (· ++ [(handler, payload)])
    return some handler.toUTF8
  have htold := Told.of_run Environment.UsesHttp "here" false env henv ops
  let r := ((Session.ofRegistry (.empty "here" false)).run env ops).registry
  have hexports : (r.exports.map fun e => (e.serviceId, e.interface, e.handler)) =
      [(7, "A", "A"), (7, "b/c %2F", "b/c %2F")] := by decide +kernel
  let network (q : Request) : StateM (List (String × Payload)) (Except CallError Response) :=
    Except.ok <$> serve r.findHandler handle q
  have hcarries (url : String) : Carries network (serve r.findHandler handle) url :=
    fun method body =>
    ⟨⟨method, url, body⟩, id, rfl, rfl, rfl, fun _ => ⟨rfl, rfl⟩, rfl⟩
  have hsize : "hello".toUTF8.size ≤ maxBodySize := by decide
  obtain ⟨e, he, heq⟩ :=
    List.mem_map.mp
    (hexports ▸ List.mem_cons_of_mem _ (List.mem_singleton_self (7, "b/c %2F", "b/c %2F")))
  obtain ⟨-, hinterface, hhandler⟩ : e.serviceId = 7 ∧ e.interface = "b/c %2F" ∧
      e.handler = "b/c %2F" := by simpa using heq
  have hcall : transact network e.description "hello".toUTF8 =
      (fun reply => .ok ⟨200, reply.getD .empty⟩) <$> handle e.handler "hello".toUTF8 :=
    (htold.remote_calls hsize).1 e he (by rw [hinterface]; decide) (by rw [hinterface]; decide)
      (by rw [hinterface]; simp)
      fun url _ => hcarries url
  let d : Endpoint := .make "x" 9 "there" "A" ((∅ : Properties).set Key.httpUrl (url 9 "A"))
  have hurl : d.property? Key.httpUrl = some (url 9 "A") := by
    change (Endpoint.identify _ _ _ _ _).get? _ = _
    rw [Endpoint.get?_identify, Properties.get?_set_self]
    rfl
  have hendpoint :
      l.endpointUrl 9 "A" =
      .ok (base.withPath ["service".toList, (Text.int64Text 9).toList, "A".toList]) := by
    rw [Location.endpointUrl, hbase]
    rfl
  have hunexported : ∀ e ∈ r.exports, e.serviceId ≠ 9 := by
    have hnumbers : ∀ x ∈ r.exports.map fun e =>
        (e.serviceId, e.interface, e.handler), x.1 ≠ 9 := by
      rw [hexports]
      simp
    exact fun e he => hnumbers _ (List.mem_map_of_mem he)
  have hmissing : transact network d "hello".toUTF8 = pure
      (.error (.remoteFault 404 "Not Found")) :=
    (htold.remote_calls hsize).2 d _ 9 hurl
      (.inr ⟨l, "A", _, hendpoint, rfl⟩) hunexported (hcarries _)
  refine ⟨env, ops, r, e, d, network, henv, htold, he, hinterface, ?_, ?_⟩
  · rw [hcall, hhandler]
    rfl
  · rw [hmissing]
    rfl

end Registry.Told

end RemoteServices
