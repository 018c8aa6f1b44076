import RecordRules.Proofs.Engine.Lasting

/-!
# Arguments belong to their handlers

A registry remembers arguments by the name of the annotation and the quoted text, and not by
the handler that has read them.  Since a name forgets its arguments whenever it gets another
handler or none, whatever is remembered has nevertheless been read by the handler that is
registered now, and no handler is ever run with the argument of another one.
-/

namespace RecordRules

/-! ## What a request does to one name -/

namespace Request

/-- The request gives a name of a registry another handler or none. -/
def Replaces (registry : RegistryName) (name : String) : Request → Prop
  | register other _ => registry = .full ∧ other = name
  | unregister other => registry = .full ∧ other = name
  | _ => False

variable {request : Request} {registry : RegistryName} {name : String}

/-- A name that gets another handler or none forgets its arguments. -/
theorem arguments_registered_of_replaces (replaces : request.Replaces registry name) (e : Engine)
    (quoted : String) :
    (({ e with registry := request.registered e.registry } : Engine).registryNamed
      registry).arguments.get? (name, quoted) = none := by
  cases request with
  | register other h =>
    obtain ⟨rfl, rfl⟩ := replaces
    refine (Memo.get?_keep e.registry.arguments _ _).trans (if_neg ?_)
    simp
  | unregister other =>
    obtain ⟨rfl, rfl⟩ := replaces
    refine (Memo.get?_keep e.registry.arguments _ _).trans (if_neg ?_)
    simp
  | _ => cases replaces

/-- Any other name keeps its arguments. -/
theorem arguments_registered_of_spares (spares : ¬ request.Replaces registry name) (e : Engine)
    (quoted : String) :
    (({ e with registry := request.registered e.registry } : Engine).registryNamed
      registry).arguments.get? (name, quoted) =
      (e.registryNamed registry).arguments.get? (name, quoted) := by
  cases registry with
  | full =>
    cases request with
    | register other h =>
      refine (Memo.get?_keep e.registry.arguments _ _).trans (if_pos (decide_eq_true ?_))
      rintro rfl
      exact spares ⟨rfl, rfl⟩
    | unregister other =>
      refine (Memo.get?_keep e.registry.arguments _ _).trans (if_pos (decide_eq_true ?_))
      rintro rfl
      exact spares ⟨rfl, rfl⟩
    | _ => rfl
  | validation => rfl
  | bare => rfl

/-- Any other name keeps its handler. -/
theorem handlers_registered_of_spares (spares : ¬ request.Replaces registry name) (e : Engine) :
    (({ e with registry := request.registered e.registry } : Engine).registryNamed
      registry).handlers.get? name = (e.registryNamed registry).handlers.get? name := by
  cases registry with
  | full =>
    cases request with
    | register other h =>
      refine (Table.get?_insert e.registry.handlers other h name).trans (if_neg ?_)
      rintro rfl
      exact spares ⟨rfl, rfl⟩
    | unregister other =>
      refine (Table.get?_erase e.registry.handlers other name).trans (if_neg ?_)
      rintro rfl
      exact spares ⟨rfl, rfl⟩
    | _ => rfl
  | validation => rfl
  | bare => rfl

end Request

theorem registryNamed_built (e : Engine) (rule : String) (registry : RegistryName) :
    (e.built rule).registryNamed registry = e.registryNamed registry := by
  cases registry <;> rfl

/-- Work takes no handler away and brings none. -/
theorem lasting_handler (registry : RegistryName) (name : String) (found : Option Handler) :
    Lasting fun e => (e.registryNamed registry).handlers.get? name = found where
  built rule is := by rwa [registryNamed_built]
  remember is _ _ _ _ := by rwa [handlers_rememberArgument]

/-- Work forgets no argument. -/
theorem lasting_argument (registry : RegistryName) (key : String × String) (argument : Prepared) :
    Lasting fun e => (e.registryNamed registry).arguments.get? key = some argument where
  built rule known := by rwa [registryNamed_built]
  remember {e registry' _ _ _ _ _} known handler _ _ _ := by
    by_cases same : registry' = registry
    · subst same
      rw [arguments_rememberArgument e (ne_bare_of_handler handler)]
      exact Memo.get?_remember_of_some known _ _
    · rwa [arguments_rememberArgument_of_ne e same]

/-! ## Owners -/

/-- An argument is what the handler registered for a name reads from the quoted text. -/
def Engine.Owns (e : Engine) (registry : RegistryName) (name quoted : String)
    (argument : Prepared) : Prop :=
  ∃ h text, (e.registryNamed registry).handlers.get? name = some h ∧
    unquote quoted = .ok text ∧ e.read text h = .ok argument

/-- Every argument that is remembered belongs to the handler that is registered. -/
def Engine.OwnsAll (e : Engine) : Prop :=
  ∀ registry name quoted argument,
    (e.registryNamed registry).arguments.get? (name, quoted) = some argument →
    e.Owns registry name quoted argument

/-- Owners stay owners as long as their name keeps its handler and rules their meaning. -/
theorem Engine.Owns.congr {e e' : Engine} {registry : RegistryName} {name quoted : String}
    {argument : Prepared} (owns : e.Owns registry name quoted argument)
    (handlers : (e'.registryNamed registry).handlers.get? name =
      (e.registryNamed registry).handlers.get? name)
    (reads : ∀ text h, e'.read text h = e.read text h) :
    e'.Owns registry name quoted argument := by
  obtain ⟨h, text, handler, unquoted, result⟩ := owns
  exact ⟨h, text, handlers.trans handler, unquoted, (reads text h).trans result⟩

/-- Only an argument that its handler has just read becomes known. -/
theorem lasting_ownsAll : Lasting Engine.OwnsAll where
  built {e} rule owns registry name quoted argument known := by
    rw [registryNamed_built] at known
    refine (owns registry name quoted argument known).congr ?_ (read_built e rule)
    rw [registryNamed_built]
  remember {e registry name quoted text h argument} owns handler unknown unquoted reads := by
    intro registry' name' quoted' argument' known
    have kept : e.Owns registry' name' quoted' argument' →
        (e.rememberArgument registry (name, quoted) argument).Owns registry' name' quoted'
          argument' := by
      intro owns
      refine owns.congr ?_ (read_congr (rules_rememberArgument e registry _ argument))
      rw [handlers_rememberArgument]
    by_cases same : registry = registry'
    · subst same
      rw [arguments_rememberArgument e (ne_bare_of_handler handler)] at known
      rcases Memo.get?_remember known with known | ⟨key, rfl⟩
      · exact kept (owns registry name' quoted' argument' known)
      · cases key
        exact kept ⟨h, text, handler, unquoted, reads⟩
    · rw [arguments_rememberArgument_of_ne e same] at known
      exact kept (owns registry' name' quoted' argument' known)

/-- Handlers that come and go take their arguments with them. -/
theorem ownsAll_registered (request : Request) {e : Engine} (owns : e.OwnsAll) :
    Engine.OwnsAll { e with registry := request.registered e.registry } := by
  intro registry name quoted argument known
  by_cases replaces : request.Replaces registry name
  · rw [Request.arguments_registered_of_replaces replaces] at known
    cases known
  · rw [Request.arguments_registered_of_spares replaces] at known
    refine (owns registry name quoted argument known).congr ?_ (read_congr rfl)
    exact Request.handlers_registered_of_spares replaces e

/-! ## Histories -/

/-- The workspace after requests. -/
def Workspace.after (w : Workspace) (requests : List Request) : Workspace :=
  ((Request.performAll requests).run w).2

theorem Workspace.after_append (w : Workspace) (requests requests' : List Request) :
    w.after (requests ++ requests') = (w.after requests).after requests' := by
  induction requests generalizing w with
  | nil => rfl
  | cons request requests ih => exact ih _

variable {registry : RegistryName} {name quoted : String}

/-- A name that gets another handler or none loses its arguments. -/
theorem unknown_perform {request : Request} (replaces : request.Replaces registry name)
    (w : Workspace) (quoted : String) :
    ((request.perform.run w).2.engine.registryNamed registry).arguments.get? (name, quoted) =
      none := by
  have forgotten := Request.arguments_registered_of_replaces replaces w.engine quoted
  cases request with
  | register other h => exact forgotten
  | unregister other => exact forgotten
  | _ => cases replaces

/-- Requests that spare a name leave it its handler. -/
theorem handler_after {requests : List Request}
    (spared : ∀ request ∈ requests, ¬ request.Replaces registry name) (w : Workspace) :
    ((w.after requests).engine.registryNamed registry).handlers.get? name =
      (w.engine.registryNamed registry).handlers.get? name := by
  refine (lasting_handler registry name _).performAll requests (fun request mem e is => ?_) rfl
  rwa [Request.handlers_registered_of_spares (spared request mem)]

/-- Requests that spare a name leave it its arguments. -/
theorem known_after {requests : List Request}
    (spared : ∀ request ∈ requests, ¬ request.Replaces registry name) {w : Workspace}
    {argument : Prepared}
    (known : (w.engine.registryNamed registry).arguments.get? (name, quoted) = some argument) :
    ((w.after requests).engine.registryNamed registry).arguments.get? (name, quoted) =
      some argument := by
  refine (lasting_argument registry (name, quoted) argument).performAll requests
    (fun request mem e is => ?_) known
  rwa [Request.arguments_registered_of_spares (spared request mem)]

/-- A handler is registered for a name since before the argument of a quoted text was known. -/
def Workspace.Introduced (w : Workspace) (requests : List Request) (registry : RegistryName)
    (name quoted : String) (h : Handler) : Prop :=
  ∃ earlier later, requests = earlier ++ later ∧
    ((w.after earlier).engine.registryNamed registry).handlers.get? name = some h ∧
    ((w.after earlier).engine.registryNamed registry).arguments.get? (name, quoted) = none ∧
    ∀ request ∈ later, ¬ request.Replaces registry name

/-- An argument has become known since its name got its handler. -/
theorem introduced_of_known {w : Workspace}
    (nothing : ∀ registry, (w.engine.registryNamed registry).arguments = .empty)
    (requests : List Request) {argument : Prepared} {h : Handler}
    (known : ((w.after requests).engine.registryNamed registry).arguments.get? (name, quoted) =
      some argument)
    (handler : ((w.after requests).engine.registryNamed registry).handlers.get? name = some h) :
    w.Introduced requests registry name quoted h := by
  induction requests using List.reverseRecOn generalizing argument with
  | nil =>
    change (w.engine.registryNamed registry).arguments.get? (name, quoted) = some argument at known
    rw [nothing] at known
    cases known
  | append_singleton requests request ih =>
    rw [Workspace.after_append] at known handler
    have spares : ∀ other ∈ [request], ¬ other.Replaces registry name := by
      rintro other mem replaces
      cases List.mem_singleton.mp mem
      have unknown := unknown_perform replaces (w.after requests) quoted
      cases unknown.symm.trans known
    rw [handler_after spares] at handler
    cases found : ((w.after requests).engine.registryNamed registry).arguments.get?
        (name, quoted) with
    | none => exact ⟨requests, [request], rfl, handler, found, spares⟩
    | some argument' =>
      obtain ⟨earlier, later, rfl, since, unknown, spared⟩ := ih found handler
      refine ⟨earlier, later ++ [request], List.append_assoc _ _ _, since, unknown, ?_⟩
      exact List.forall_mem_append.mpr ⟨spared, spares⟩

/-! ## Runs of handlers -/

/-- A way to run handlers that is as good as theirs where a field has an annotation of the
handler and the argument is what the handler reads from its text. -/
def Runner.Minds (run : Runner) : Prop :=
  ∀ (s : WalkSetting) (path : FieldPath) (info : FieldInfo) (h : Handler) (argument : Prepared)
    (state : WalkState), ∀ pair ∈ annotationPairs info.tag,
    (state.work.engine.registryNamed s.registry).handlers.get? pair.name = some h →
    state.work.engine.read pair.value h = .ok argument →
    (run s path info h argument).run.run state =
      (Walk.runHandler s path info h argument).run.run state

/-- If all arguments belong to their handlers, handlers are run with nothing else. -/
theorem Runner.Minds.serves {run : Runner} (minds : run.Minds) (registry : RegistryName) :
    run.Serves Engine.OwnsAll registry := by
  intro s path info h argument state pair mem is owns handler known
  obtain ⟨h', text, handler', unquoted, reads⟩ := owns registry pair.name pair.quoted argument known
  cases handler.symm.trans handler'
  cases unquoted.symm.trans (unquote_of_mem_annotationPairs mem)
  exact minds s path info h argument state pair mem (is ▸ handler) reads

/-- The sort of the arguments that a handler reads. -/
def Handler.sort : Handler → ArgumentSort
  | .validate _ => .rule
  | .plain h => h.sort

/-- Runs a handler with an argument of its sort, and does something else with others. -/
def Walk.runHandlerOr (stray : Runner) : Runner := fun s path info h argument =>
  if argument.sort = h.sort then runHandler s path info h argument
  else stray s path info h argument

theorem as?_of_ne {argument : Prepared} {sort : ArgumentSort} (other : argument.sort ≠ sort) :
    argument.as? sort = none :=
  dif_neg other

/-- An argument of another sort is a mismatch. -/
theorem runHandlerOr_mismatch :
    Walk.runHandlerOr (fun _ _ info _ _ => Walk.mismatch info) = Walk.runHandler := by
  funext s path info h argument
  rw [Walk.runHandlerOr]
  split
  · rfl
  · next other =>
    cases h with
    | validate shared =>
      have mismatch : argument.as? .rule = none := as?_of_ne other
      rw [Walk.runHandler, mismatch]
    | plain h =>
      have mismatch : argument.as? h.sort = none := as?_of_ne other
      rw [Walk.runHandler, mismatch]

theorem sort_of_read {e : Engine} {text : String} {h : Handler} {argument : Prepared}
    (reads : e.read text h = .ok argument) : argument.sort = h.sort := by
  cases h with
  | validate shared =>
    rw [Engine.read] at reads
    split at reads
    · cases reads
      rfl
    · cases reads
  | plain h =>
    rw [Engine.read] at reads
    cases parsed : h.parse text with
    | error e =>
      rw [parsed] at reads
      cases reads
    | ok payload =>
      rw [parsed] at reads
      cases reads
      rfl

theorem minds_runHandlerOr (stray : Runner) : (Walk.runHandlerOr stray).Minds := by
  intro s path info h argument state pair mem handler reads
  rw [Walk.runHandlerOr, if_pos (sort_of_read reads)]

theorem walkBy_of_minds {run : Runner} (minds : run.Minds) {w : Workspace}
    (owns : w.engine.OwnsAll) (registry : RegistryName) (settable selfValidate : Bool)
    (outer : Option Value) (v : Value) :
    (Engine.walkBy run registry settable selfValidate outer v).run w =
      (Engine.walkWith registry settable selfValidate outer v).run w := by
  have dispatches := fun registry => lasting_ownsAll.dispatches (minds.serves registry)
  have paired := paired_walk (unjournaled_holding _) (dispatches registry)
    (dispatches .validation) settable selfValidate outer v
  rw [walkBy_runHandler] at paired
  exact (kept_of_holding paired owns).1

/-- Engines start without arguments.  Then, whatever is asked of one and whatever comes of
it:

* every argument that is remembered belongs to the handler that is registered for its name,
  which reads it from the quoted text and has been registered since before it was known;
* an argument stays as long as its name keeps its handler;
* handlers are run with nothing but what they read from the annotation of the field: walks
  cannot tell them from anything that does the same for such arguments;
* in particular, what is done with an argument of another sort, which is to report a mismatch,
  makes no difference. -/
theorem arguments_owned {w : Workspace}
    (nothing : ∀ registry, (w.engine.registryNamed registry).arguments = .empty)
    (requests : List Request) (registry : RegistryName) :
    (∀ name quoted argument,
      ((w.after requests).engine.registryNamed registry).arguments.get? (name, quoted) =
        some argument →
      ∃ h text, ((w.after requests).engine.registryNamed registry).handlers.get? name = some h ∧
        unquote quoted = .ok text ∧ (w.after requests).engine.read text h = .ok argument ∧
        w.Introduced requests registry name quoted h) ∧
    (∀ earlier later name quoted argument, requests = earlier ++ later →
      (∀ request ∈ later, ¬ request.Replaces registry name) →
      ((w.after earlier).engine.registryNamed registry).arguments.get? (name, quoted) =
        some argument →
      ((w.after requests).engine.registryNamed registry).arguments.get? (name, quoted) =
        some argument) ∧
    (∀ run : Runner, run.Minds → ∀ settable selfValidate outer v,
      (Engine.walkBy run registry settable selfValidate outer v).run (w.after requests) =
        (Engine.walkWith registry settable selfValidate outer v).run (w.after requests)) ∧
    Walk.runHandlerOr (fun _ _ info _ _ => Walk.mismatch info) = Walk.runHandler ∧
    ∀ (stray : Runner) settable selfValidate outer v,
      (Engine.walkBy (Walk.runHandlerOr stray) registry settable selfValidate outer v).run
        (w.after requests) =
        (Engine.walkWith registry settable selfValidate outer v).run (w.after requests) := by
  have start : w.engine.OwnsAll := by
    intro registry name quoted argument known
    rw [nothing] at known
    cases known
  have owns : (w.after requests).engine.OwnsAll :=
    lasting_ownsAll.performAll requests (fun request _ e owns => ownsAll_registered request owns)
      start
  refine ⟨fun name quoted argument known => ?_, ?_, ?_, runHandlerOr_mismatch, ?_⟩
  · obtain ⟨h, text, handler, unquoted, reads⟩ := owns registry name quoted argument known
    exact ⟨h, text, handler, unquoted, reads, introduced_of_known nothing requests known handler⟩
  · rintro earlier later name quoted argument rfl spared known
    rw [Workspace.after_append]
    exact known_after spared known
  · intro run minds settable selfValidate outer v
    exact walkBy_of_minds minds owns registry settable selfValidate outer v
  · intro stray settable selfValidate outer v
    exact walkBy_of_minds (minds_runHandlerOr stray) owns registry settable selfValidate outer v

/-- A name gets a handler of another sort between two walks over the same annotation. -/
theorem arguments_owned_of_replaced :
    let texts : PlainHandler := { sort := .text, parse := .ok, run := fun _ _ => {} }
    let badges : PlainHandler := { sort := .own "badge", parse := .ok, run := fun _ _ => {} }
    let note : RecordType :=
      { name := "Note", fields := [{ name := "body", tag := "label:\"x\"" }] }
    let v : Value := .record note [.text "long"]
    let w : Workspace := { engine := Engine.new {} }
    let requests : List Request := [.register "label" (.plain texts), .walk false v,
      .register "label" (.plain badges), .walk false v]
    let careless := Walk.runHandlerOr fun _ _ _ _ _ => pure .skip
    (∀ registry, (w.engine.registryNamed registry).arguments = .empty) ∧
      (((w.after requests).engine.registryNamed .full).arguments.get?
        ("label", "\"x\"")).map Prepared.sort = some (.own "badge") ∧
      w.Introduced requests .full "label" "\"x\"" (.plain badges) ∧
      careless.Minds ∧
      (Engine.walkBy careless .full true true none v).run (w.after requests) =
        (Engine.walkWith .full true true none v).run (w.after requests) := by
  intro texts badges note v w requests careless
  have nothing : ∀ registry, (w.engine.registryNamed registry).arguments = .empty := by
    intro registry
    cases registry <;> rfl
  have sort : (((w.after requests).engine.registryNamed .full).arguments.get?
      ("label", "\"x\"")).map Prepared.sort = some (.own "badge") := by decide +kernel
  have spared : ∀ request ∈ [Request.walk false v], ¬ request.Replaces .full "label" :=
    List.forall_mem_singleton.mpr id
  have registered : ((w.after requests).engine.registryNamed .full).handlers.get? "label" =
      some (.plain badges) :=
    (handler_after spared (w.after (requests.take 3))).trans (Table.get?_insert _ _ _ _)
  obtain ⟨owned, -, minding, -⟩ := arguments_owned nothing requests .full
  obtain ⟨argument, known, -⟩ := Option.map_eq_some_iff.mp sort
  obtain ⟨h, -, handler, -, -, introduced⟩ := owned _ _ _ known
  cases registered.symm.trans handler
  have minds : careless.Minds := minds_runHandlerOr _
  exact ⟨nothing, sort, introduced, minds, minding careless minds true true none v⟩

end RecordRules
