import Entitlement.Proofs.Wire.Spelling
import Entitlement.Wire.Response

/-!
# Requests and responses read back

* `RequestBody.format`, `Response.format` : the texts that a request and a response may be sent as,
  with a list for every list;
* `format_render` : what is written is such a text;
* `RequestBody.parse_of_format`, `Response.parse_of_format` : **such a text is read as what it was
  sent for**, so `parse_render` : a written response is read as itself;
* `RoleGraph.ofEntries_entries` : a graph is that of its entries.
-/

namespace Entitlement
open Json

/-! ## Requests -/

namespace RequestBody

/-- With all members, in order. -/
def format (b : RequestBody) : Format := .record (b.members.map Member.entry)

theorem format_render (b : RequestBody) : b.format b.render.toList := by
  rw [render, String.toList_ofList]
  refine record_object ?_
  exact .cons ⟨rfl, text_string _⟩ <| .cons ⟨rfl, text_string _⟩ <|
    .cons ⟨rfl, array_strings _⟩ .nil

theorem readAs_of_format {b : RequestBody} {text : String} (h : b.format.alone text.toList) :
    ReadAs text (.ok b) :=
  .of_decodes (decodes_object (once_members b 3)) h

/-- A request is read from the bytes that it is written as. -/
theorem startOfInput_render (b : RequestBody) :
    reader.startOfInput (Text.Utf8.decode (Text.Utf8.encode b.render)) = .ok b :=
  (readAs_of_format (alone_self b.format_render)).2

end RequestBody

namespace RoleGraph

/-! ## Graphs -/

theorem insertEntry_of_forall_lt {e : GraphEntry} {entries : List GraphEntry}
    (h : ∀ a ∈ entries, a.name < e.name) : insertEntry e entries = entries ++ [e] := by
  induction entries with
  | nil => rfl
  | cons a entries ih =>
    have ha := h a List.mem_cons_self
    have hne : e.name ≠ a.name := fun he => String.lt_irrefl _ (he ▸ ha)
    rw [insertEntry, if_neg (String.lt_asymm ha), if_neg hne,
      ih fun b hb => h b (List.mem_cons_of_mem a hb), List.cons_append]

theorem entries_insert {g : RoleGraph} {e : GraphEntry} (h : ∀ a ∈ g.entries, a.name < e.name) :
    (g.insert e).entries = g.entries ++ [e] := insertEntry_of_forall_lt h

theorem entries_foldl_insert {g : RoleGraph} {later : List GraphEntry}
    (h : (g.entries ++ later).Pairwise fun a b => a.name < b.name) :
    (later.foldl insert g).entries = g.entries ++ later := by
  induction later generalizing g with
  | nil => exact (List.append_nil _).symm
  | cons e later ih =>
    have hlt : ∀ a ∈ g.entries, a.name < e.name := fun a ha =>
      (List.pairwise_append.1 h).2.2 a ha e List.mem_cons_self
    rw [List.append_cons, ← entries_insert hlt] at h ⊢
    exact ih h

/-- Entries in the order of their names stay as they are. -/
theorem ofEntries_entries (g : RoleGraph) : ofEntries g.entries = g := by
  have hentries : (ofEntries g.entries).entries = g.entries := entries_foldl_insert g.sorted
  cases g with
  | mk entries sorted =>
    generalize ofEntries entries = g at hentries
    cases g with
    | mk _ _ =>
      cases hentries
      rfl

/-- The entry of a name. -/
def entryFormat (e : GraphEntry) : String × Format :=
  (e.name, .record
    [("permissions", .array (e.permissions.map .text)), ("inherits", .array (e.inherits.map .text))])

def format (g : RoleGraph) : Format := .record (g.entries.map entryFormat)

theorem format_renderEntry (e : GraphEntry) : (entryFormat e).2 (renderEntry e).2 :=
  record_object (.cons ⟨rfl, array_strings _⟩ (.cons ⟨rfl, array_strings _⟩ .nil))

theorem format_render (g : RoleGraph) : g.format g.render := by
  refine record_object ?_
  rw [List.forall₂_map_left_iff, List.forall₂_map_right_iff, List.forall₂_same]
  exact fun e _ => ⟨rfl, format_renderEntry e⟩

theorem decodes_entry (e : GraphEntry) : Decodes (entryReader e.name) (entryFormat e).2 e := by
  have hfields : Carries entryField ⟨none, none⟩
      [("permissions", .array (e.permissions.map .text)),
        ("inherits", .array (e.inherits.map .text))] ⟨some e.permissions, some e.inherits⟩ := by
    refine .cons rfl ((Decodes.texts _).map _) ?_
    refine .cons rfl ((Decodes.texts _).map _) ?_
    exact .nil _
  have hentry : entryOfFields e.name ⟨some e.permissions, some e.inherits⟩ = .ok e := rfl
  exact .struct hfields _ fun h => check_eq_ok h hentry

theorem carries_entries (before entries : List GraphEntry) :
    Carries (fun name entries => .ok ((entryReader name).map fun e => entries ++ [e])) before
      (entries.map entryFormat) (before ++ entries) := by
  induction entries generalizing before with
  | nil =>
    rw [List.append_nil]
    exact .nil before
  | cons e entries ih =>
    rw [List.append_cons]
    exact .cons rfl ((decodes_entry e).map _) (ih (before ++ [e]))

theorem decodes_graph (g : RoleGraph) : Decodes reader g.format g := by
  have hgraph : Decodes (.object _) g.format g.entries := .object (carries_entries [] g.entries) id
  have hofEntries := hgraph.map ofEntries
  rwa [ofEntries_entries] at hofEntries

end RoleGraph

namespace Response

/-! ## Responses -/

def resourceFormat (r : Resource) : Format :=
  .record [("resourceId", .text r.id), ("resourceType", .text r.type)]

def format (r : Response) : Format :=
  .record
    [("tenantId", .text r.tenant), ("userId", .text r.user), ("roles", .array (r.roles.map .text)),
      ("revokedPermissions", .array (r.revoked.map .text)),
      ("extraPermissions", .array (r.extra.map .text)),
      ("userResources", .array (r.resources.map resourceFormat)), ("roleGraph", r.graph.format)]

theorem format_renderResource (r : Resource) : resourceFormat r (renderResource r) :=
  record_object (.cons ⟨rfl, text_string _⟩ (.cons ⟨rfl, text_string _⟩ .nil))

/-- **A response is written with all members, and each list as a list.** -/
theorem format_render (r : Response) : r.format r.render.toList := by
  have hresources := array_map format_renderResource r.resources
  rw [render, String.toList_ofList]
  refine record_object ?_
  exact .cons ⟨rfl, text_string _⟩ <| .cons ⟨rfl, text_string _⟩ <|
    .cons ⟨rfl, array_strings _⟩ <| .cons ⟨rfl, array_strings _⟩ <|
    .cons ⟨rfl, array_strings _⟩ <| .cons ⟨rfl, hresources⟩ <|
    .cons ⟨rfl, r.graph.format_render⟩ .nil

theorem decodes_resource (r : Resource) : Decodes resourceReader (resourceFormat r) r := by
  have hfields : Carries resourceField ⟨none, none⟩
      [("resourceId", .text r.id), ("resourceType", .text r.type)] ⟨some r.id, some r.type⟩ := by
    refine .cons rfl ((Decodes.text _).map _) ?_
    refine .cons rfl ((Decodes.text _).map _) ?_
    exact .nil _
  have hresource : resourceOfFields ⟨some r.id, some r.type⟩ = .ok r := rfl
  exact .struct hfields _ fun h => check_eq_ok h hresource

theorem decodes_response (r : Response) : Decodes reader r.format r := by
  have hresources := Decodes.list_map decodes_resource r.resources
  have hfields : Carries field .none
      [("tenantId", .text r.tenant), ("userId", .text r.user),
        ("roles", .array (r.roles.map .text)), ("revokedPermissions", .array (r.revoked.map .text)),
        ("extraPermissions", .array (r.extra.map .text)),
        ("userResources", .array (r.resources.map resourceFormat)), ("roleGraph", r.graph.format)]
      ⟨some r.tenant, some r.user, some r.roles, some r.revoked, some r.extra, some r.resources,
        some r.graph⟩ := by
    refine .cons rfl ((Decodes.text _).map _) ?_
    refine .cons rfl ((Decodes.text _).map _) ?_
    refine .cons rfl ((Decodes.texts _).map _) ?_
    refine .cons rfl ((Decodes.texts _).map _) ?_
    refine .cons rfl ((Decodes.texts _).map _) ?_
    refine .cons rfl (hresources.map _) ?_
    refine .cons rfl (r.graph.decodes_graph.map _) ?_
    exact .nil _
  have hresponse : ofFields ⟨some r.tenant, some r.user, some r.roles, some r.revoked,
      some r.extra, some r.resources, some r.graph⟩ = .ok r := rfl
  exact .struct hfields ofItems fun h => check_eq_ok h hresponse

theorem parse_of_format {r : Response} {text : String} (h : r.format.alone text.toList) :
    parse text = .ok r := (decodes_response r).ofInput h

/-- **A written response is read as itself.** -/
theorem parse_render (r : Response) : parse r.render = .ok r :=
  parse_of_format (alone_self r.format_render)

end Response

/-! ## Nothing is lost -/

/-- **The wire loses nothing.** A response and a request are read from all their texts, and are
written as one of them, in which each list is a list, also without a view. -/
theorem wire_lossless :
    (∀ r : Response, Response.parse r.render = .ok r ∧ r.format r.render.toList ∧
      ∀ text : String, r.format.alone text.toList → Response.parse text = .ok r) ∧
    (∀ b : RequestBody, RequestBody.parse b.render = .ok b ∧ b.format b.render.toList ∧
      ∀ text : String, b.format.alone text.toList → RequestBody.parse text = .ok b) ∧
    Function.Injective Response.render ∧ Function.Injective RequestBody.render ∧
    ∀ tenant user, Format.record
      [("tenantId", .text tenant.text), ("userId", .text user.text), ("roles", .array []),
        ("revokedPermissions", .array []), ("extraPermissions", .array []),
        ("userResources", .array []), ("roleGraph", .record [])]
      (Response.ofView tenant user none).render.toList := by
  have hrequest (b : RequestBody) : RequestBody.parse b.render = .ok b :=
    (RequestBody.readAs_of_format (alone_self b.format_render)).1
  refine ⟨?_, ?_, ?_, ?_, ?_⟩
  · intro r
    exact ⟨r.parse_render, r.format_render, fun text h => Response.parse_of_format h⟩
  · intro b
    exact ⟨hrequest b, b.format_render, fun text h => (RequestBody.readAs_of_format h).1⟩
  · intro r r' h
    have hparse := r.parse_render
    rw [h, r'.parse_render] at hparse
    exact (Except.ok.inj hparse).symm
  · intro b b' h
    have hparse := hrequest b
    rw [h, hrequest b'] at hparse
    exact (Except.ok.inj hparse).symm
  · intro tenant user
    exact (Response.ofView tenant user none).format_render

end Entitlement
