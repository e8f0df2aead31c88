import Entitlement.Http.Router
import Entitlement.Proofs.Service.Outcome
import Entitlement.Proofs.Wire.RoundTrip

/-!
# Replies to requests for permissions

* `Error.foldr_operations`, `Error.message_eq` : an error is its cause inside its operations, and
  says so;
* `Reply.Refuses` : a status, and a body with a kind and a message;
* `HttpRequest.readBody_eq_ok_iff` : which bodies are read;
* `Service.Answers` : what a request comes to, for each way that it can end;
* `Service.answers_handle` : **every request that is read comes to that.**
-/

namespace Entitlement
open Json

/-! ## Errors -/

theorem Error.foldr_operations (e : Error) : e.operations.foldr operation e.root = e := by
  induction e with
  | operation name cause ih => exact congrArg (operation name) ih
  | _ => rfl

/-- The operations from the outside in, each before a colon, and then the cause. -/
theorem Error.message_eq (e : Error) :
    e.message = String.join (e.operations.map (· ++ ": ")) ++ e.root.message := by
  induction e with
  | operation name cause ih =>
    change name ++ ": " ++ cause.message =
      String.join ((name ++ ": ") :: cause.operations.map (· ++ ": ")) ++ cause.root.message
    rw [String.join_cons, ih, String.append_assoc, String.append_assoc, String.append_assoc]
  | _ => simp only [operations, root, List.map_nil, String.join_nil, String.empty_append]

/-- The tenant or the user is missing. -/
def Error.isMissing (e : Error) : Prop := e = missingTenant ∨ e = missingUser

instance (e : Error) : Decidable e.isMissing := inferInstanceAs (Decidable (_ ∨ _))

theorem Error.isRequestFault_eq (e : Error) : e.isRequestFault = decide e.root.isMissing := by
  unfold isRequestFault isMissing
  cases e.root with
  | missingTenant => rfl
  | missingUser => rfl
  | _ => simp

/-! ## Replies -/

namespace Reply

/-- An object of texts, member by member. -/
def texts : Reader (List (String × String)) :=
  .object (Reader.members (fun key ms => .ok (Reader.text.map fun s => ms ++ [(key, s)])) true [])

/-- The body names a kind of error and a message. -/
def Refuses (r : Reply) (status : Nat) (kind message : String) : Prop :=
  r.status = status ∧ ∃ body, r.json = some body ∧
    texts.ofInput (.ofString body) = .ok [("error", kind), ("message", message)]

theorem refuses_ofError (e : Error) : (ofError e).Refuses (if e.root.isMissing then 400 else 500)
    (if e.root.isMissing then "bad_request" else "resolution_error") e.message := by
  have hread (kind : String) :
      texts.ofInput (.ofString (String.ofList
        (object [("error", string kind), ("message", string e.message)]))) =
        .ok [("error", kind), ("message", e.message)] := by
    have hmembers : Carries (fun key ms => .ok (Reader.text.map fun s => ms ++ [(key, s)])) []
        [("error", .text kind), ("message", .text e.message)]
        [("error", kind), ("message", e.message)] := by
      refine .cons rfl ((Decodes.text _).map _) ?_
      refine .cons rfl ((Decodes.text _).map _) ?_
      exact .nil _
    have hformat : Format.record [("error", .text kind), ("message", .text e.message)]
        (object [("error", string kind), ("message", string e.message)]) :=
      record_object (.cons ⟨rfl, text_string _⟩ (.cons ⟨rfl, text_string _⟩ .nil))
    refine (Decodes.object hmembers id).ofInput ?_
    rw [String.toList_ofList]
    exact alone_self hformat
  unfold ofError
  rw [e.isRequestFault_eq]
  by_cases h : e.root.isMissing
  · simp only [h, decide_true, if_true]
    exact ⟨rfl, _, rfl, hread _⟩
  · simp only [h, decide_false, if_false]
    exact ⟨rfl, _, rfl, hread _⟩

end Reply

/-! ## Requests -/

namespace RequestBody
open Text

variable {b : RequestBody}

theorem request_of_blank_tenant (h : isBlank b.tenant = true) :
    b.request = .error .missingTenant := by
  rw [request, TenantId.parse_of_isBlank h]
  rfl

theorem request_of_blank_user (htenant : isBlank b.tenant = false) (h : isBlank b.user = true) :
    b.request = .error .missingUser := by
  rw [request, TenantId.parse_eq_ok_iff (t := ⟨b.tenant, htenant⟩).2 rfl,
    UserId.parse_of_isBlank h]
  rfl

/-- The identifiers as they are, and the resources that are not empty. -/
def viewRequest (b : RequestBody) (htenant : isBlank b.tenant = false)
    (huser : isBlank b.user = false) : ViewRequest :=
  ⟨⟨b.tenant, htenant⟩, ⟨b.user, huser⟩, ⟨b.resources.filter (· ≠ "")⟩, false, false⟩

theorem request_eq (htenant : isBlank b.tenant = false) (huser : isBlank b.user = false) :
    b.request = .ok (b.viewRequest htenant huser) := by
  rw [request, TenantId.parse_eq_ok_iff (t := ⟨b.tenant, htenant⟩).2 rfl,
    UserId.parse_eq_ok_iff (u := ⟨b.user, huser⟩).2 rfl]
  rfl

end RequestBody

namespace HttpRequest
open Text

variable {r : HttpRequest} {body : RequestBody}

theorem readBody_eq_ok_iff : r.readBody = .ok body ↔ r.isJson = true ∧
    r.body.length ≤ bodyLimit ∧
    RequestBody.reader.startOfInput (Utf8.decode r.body) = .ok body := by
  unfold readBody
  cases r.isJson with
  | false => simp
  | true =>
    by_cases hlong : bodyLimit < r.body.length
    · simp [hlong]
    · cases RequestBody.reader.startOfInput (Utf8.decode r.body) with
      | error e => simp [hlong, Except.mapError]
      | ok b => simp [hlong, Except.mapError, Nat.le_of_not_lt hlong]

theorem readBody_of_long (hjson : r.isJson = true) (h : bodyLimit < r.body.length) :
    r.readBody = .error (.plain 413) := by
  unfold readBody
  rw [hjson, if_pos h]
  rfl

end HttpRequest

namespace Service
open Text

variable {σ : Type} {s : Service σ} {body : RequestBody} {w : World σ}

/-- What a request comes to: a reply, and the world after it. The nodes of the response's graph come
in some order. -/
structure Answers (s : Service σ) (order : NodeOrder) (body : RequestBody) (w : World σ)
    (outcome : Reply × World σ) : Prop where
  /-- A blank tenant is refused, and nothing is done. -/
  blankTenant : isBlank body.tenant = true →
    outcome.1.Refuses 400 "bad_request" "tenant ID not found in request" ∧ outcome.2 = w
  /-- So is a blank user of a tenant that is not. -/
  blankUser : isBlank body.tenant = false → isBlank body.user = true →
    outcome.1.Refuses 400 "bad_request" "user ID not found in request" ∧ outcome.2 = w
  /-- Any other request is resolved once, -/
  world : ∀ htenant huser,
    outcome.2 = (s.resolve (body.viewRequest htenant huser) .never w).2
  /-- to a view, of which the reply holds the response, -/
  view : ∀ htenant huser v,
    (s.resolve (body.viewRequest htenant huser) .never w).1.result = .ok v →
      outcome.1.status = 200 ∧ ∃ text, outcome.1.json = some text ∧
        Response.parse text =
          .ok (.ofView ⟨body.tenant, htenant⟩ ⟨body.user, huser⟩ (some v) order)
  /-- or to an error, of which it names the cause after all operations. -/
  failure : ∀ htenant huser e,
    (s.resolve (body.viewRequest htenant huser) .never w).1.result = .error e →
      e.operations.foldr .operation e.root = e ∧
      outcome.1.Refuses (if e.root = .missingTenant ∨ e.root = .missingUser then 400 else 500)
        (if e.root = .missingTenant ∨ e.root = .missingUser then "bad_request"
          else "resolution_error")
        (String.join (e.operations.map (· ++ ": ")) ++ e.root.message)

theorem answers_answerBody (s : Service σ) (order : NodeOrder) (body : RequestBody)
    (w : World σ) : s.Answers order body w (s.answerBody body w order) where
  blankTenant h := by
    rw [answerBody, RequestBody.request_of_blank_tenant h]
    exact ⟨Reply.refuses_ofError .missingTenant, rfl⟩
  blankUser htenant h := by
    rw [answerBody, RequestBody.request_of_blank_user htenant h]
    exact ⟨Reply.refuses_ofError .missingUser, rfl⟩
  world htenant huser := by
    rw [answerBody, RequestBody.request_eq htenant huser]
    dsimp only
    split
    · rfl
    · rfl
  view htenant huser v hv := by
    rw [answerBody, RequestBody.request_eq htenant huser]
    dsimp only
    rw [hv]
    exact ⟨rfl, _, rfl, Response.parse_render _⟩
  failure htenant huser e he := by
    rw [answerBody, RequestBody.request_eq htenant huser]
    dsimp only
    rw [he, ← e.message_eq]
    exact ⟨e.foldr_operations, Reply.refuses_ofError e⟩

/-- **Every request that is read comes to that.** One whose body is too long is not read, and
nothing is done for it. -/
theorem answers_handle (s : Service σ) (order : NodeOrder) (uptime : Nat) (r : HttpRequest)
    (w : World σ) (hpath : r.path = "/v1/permissions") (hmethod : r.method = "POST")
    (hjson : r.isJson = true) :
    (∀ body, r.body.length ≤ HttpRequest.bodyLimit →
      RequestBody.reader.startOfInput (Utf8.decode r.body) = .ok body →
      s.Answers order body w (s.handle uptime r w order)) ∧
    (HttpRequest.bodyLimit < r.body.length → s.handle uptime r w order = (.plain 413, w)) := by
  have hhandle : s.handle uptime r w order = s.answerPermissions r w order := by
    have hhealth : ¬ r.path = "/health" := by
      rw [hpath]
      decide
    rw [handle, if_neg hhealth, if_pos hpath, if_pos hmethod]
  rw [hhandle, answerPermissions]
  constructor
  · intro body hlength hbody
    rw [HttpRequest.readBody_eq_ok_iff.2 ⟨hjson, hlength, hbody⟩]
    exact s.answers_answerBody order body w
  · intro hlong
    rw [HttpRequest.readBody_of_long hjson hlong]

/-- A request for a tenant that has no data. -/
def strayBody : RequestBody := ⟨"acme", "ann", ["", "horses"]⟩

def strayRequest : HttpRequest :=
  ⟨"POST", "/v1/permissions?verbose", some "application/json", Utf8.encode strayBody.render⟩

/-- A request whose body is one byte too long. -/
def longRequest : HttpRequest :=
  ⟨"POST", "/v1/permissions", some "application/json",
    List.replicate (HttpRequest.bodyLimit + 1) 32⟩

theorem answers_handle_stray :
    ((inMemory none).handle 0 strayRequest (.ofState .empty)).1.Refuses 500 "resolution_error"
      ("get tenant role map: get tenant connection: Connection error: " ++
        "database \"acme\" does not exist") ∧
    (inMemory none).handle 0 longRequest (.ofState .empty) = (.plain 413, .ofState .empty) := by
  have hbody : RequestBody.reader.startOfInput (Utf8.decode strayRequest.body) = .ok strayBody :=
    strayBody.startOfInput_render
  obtain ⟨hread, -⟩ := answers_handle (inMemory none) .stored 0 strayRequest (.ofState .empty)
    (by decide) rfl (by decide)
  have hanswers := hread strayBody (by decide +kernel) hbody
  have hresolve : ((inMemory none).resolve (strayBody.viewRequest (by decide) (by decide)) .never
      (.ofState .empty)).1 = _ := resolve_of_missing (by decide) rfl
  obtain ⟨-, hrefuses⟩ := hanswers.failure _ _ _ (congrArg Resolution.result hresolve)
  obtain ⟨-, hrefused⟩ := answers_handle (inMemory none) .stored 0 longRequest (.ofState .empty)
    (by decide) rfl (by decide)
  refine ⟨hrefuses, hrefused ?_⟩
  rw [longRequest, List.length_replicate]
  exact Nat.lt_succ_self _

end Service

end Entitlement
