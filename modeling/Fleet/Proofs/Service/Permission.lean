/-
  Fleet/Proofs/Service/Permission.lean
  ====================================
  **Who may change the registry of a running instance.**

  The text with the service accounts is a row of entries with commas between them.  An entry
  names an account unless it is blank, and the blanks around the name do not count
  (`Settings.Names`, `Settings.mem_splitAccounts`).

  An instance keeps the policy of its plan, whatever notices and files it deals with
  (`Plan.Runs.service`).  So a text that names somebody decides for good: for the accounts that it
  names every request is served as if there were no list, and everyone else is refused every change
  before anything is looked at (`Instance.Guarded`).

  A text that names nobody does not lock the registry.  It counts as no text at all and leaves the
  policy what it was, and by default everyone may make changes (`Settings.blank_refuses_nobody`).
-/
import Fleet.Instance
import Fleet.Proofs.Service.NormalForm
import Fleet.Proofs.Service.Requests

namespace Fleet

open Fleet.Text Fleet.Config

/-! ### The accounts that a text names -/

namespace Settings

variable {text name : String} {env : Environment} {settings : Settings}

/-- A text consists of entries with commas between them, and this name stands in one of them. -/
def Names (text name : String) : Prop :=
  ∃ entries : List String, text = ",".intercalate entries ∧ (∀ e ∈ entries, ',' ∉ e.toList) ∧
    ∃ e ∈ entries, trim e = name ∧ name ≠ ""

theorem not_mem_of_mem_splitOn {α : Type} [BEq α] [LawfulBEq α] {x : α} {xs l : List α}
    (h : l ∈ xs.splitOn x) : x ∉ l := by
  induction hn : xs.length using Nat.strong_induction_on generalizing xs with
  | _ n ih =>
    by_cases hx : x ∈ xs
    · obtain ⟨before, after, rfl, hbefore⟩ := List.eq_append_cons_of_mem hx
      rw [List.splitOn_append_cons_self_of_not_mem hbefore, List.mem_cons] at h
      rcases h with rfl | h
      · exact hbefore
      · refine ih after.length ?_ h rfl
        rw [← hn]
        simp
        omega
    · rw [List.splitOn_eq_singleton hx, List.mem_singleton] at h
      exact h ▸ hx

/-- A text can be cut at its commas in one way only. -/
theorem splitOn_intercalate {entries : List String} (hne : entries ≠ [])
    (hcomma : ∀ e ∈ entries, ',' ∉ e.toList) :
    (",".intercalate entries).toList.splitOn ',' = entries.map String.toList := by
  rw [String.toList_intercalate]
  apply List.splitOn_intercalate
  · intro l hl
    obtain ⟨e, he, rfl⟩ := List.mem_map.1 hl
    exact hcomma e he
  · simpa using hne

theorem exists_entries (text : String) : ∃ entries : List String,
    text = ",".intercalate entries ∧ (∀ e ∈ entries, ',' ∉ e.toList) ∧
      entries.map String.toList = text.toList.splitOn ',' := by
  refine ⟨(text.toList.splitOn ',').map String.ofList, ?_, ?_, ?_⟩
  · apply String.toList_inj.1
    rw [String.toList_intercalate, List.map_map]
    simp only [Function.comp_def, String.toList_ofList, List.map_id']
    exact (List.intercalate_splitOn ',').symm
  · intro e he
    obtain ⟨l, hl, rfl⟩ := List.mem_map.1 he
    rw [String.toList_ofList]
    exact not_mem_of_mem_splitOn hl
  · simp [Function.comp_def]

/-- A name has been cut out of a text if it is what is left of an entry without its blanks. -/
theorem mem_splitAccounts_iff :
    name ∈ splitAccounts text ↔
      ∃ l ∈ text.toList.splitOn ',', String.ofList (strip isBlank l) = name ∧ name ≠ "" := by
  simp only [splitAccounts, List.splitOn, List.mem_map, List.mem_filter]
  constructor
  · rintro ⟨_, ⟨⟨l, hl, rfl⟩, hne⟩, rfl⟩
    refine ⟨l, hl, rfl, ?_⟩
    simpa [String.ofList_eq_empty_iff] using hne
  · rintro ⟨l, hl, rfl, hne⟩
    refine ⟨_, ⟨⟨l, hl, rfl⟩, ?_⟩, rfl⟩
    simpa [String.ofList_eq_empty_iff] using hne

/-- **The accounts that are cut out of a text are those that it names.** -/
theorem mem_splitAccounts : name ∈ splitAccounts text ↔ Names text name := by
  rw [mem_splitAccounts_iff]
  constructor
  · rintro ⟨l, hl, hname, hne⟩
    obtain ⟨entries, htext, hcomma, hsplit⟩ := exists_entries text
    rw [← hsplit] at hl
    obtain ⟨e, he, rfl⟩ := List.mem_map.1 hl
    exact ⟨entries, htext, hcomma, e, he, hname, hne⟩
  · rintro ⟨entries, rfl, hcomma, e, he, hname, hne⟩
    rw [splitOn_intercalate (List.ne_nil_of_mem he) hcomma]
    exact ⟨e.toList, List.mem_map_of_mem he, hname, hne⟩

/-- The settings have the list of a text, unless it names nobody. -/
theorem accounts_of_ofEnvironment (h : ofEnvironment env = .ok settings)
    (htext : env.get? (key "SERVICE_ACCOUNTS") = some text) :
    settings.accounts = if (splitAccounts text).isEmpty then none else some (splitAccounts text) := by
  unfold ofEnvironment at h
  cases hdatabase : env.get? (key "DATABASE_URL") with
  | none =>
    rw [hdatabase] at h
    cases h
  | some _ =>
    rw [hdatabase] at h
    obtain ⟨database, -, h⟩ := Json.of_bind_eq_ok h
    obtain ⟨seconds, -, h⟩ := Json.of_bind_eq_ok h
    cases hisolation : Isolation.ofText? ((env.get? (key "ISOLATION_LEVEL")).getD "") with
    | none =>
      rw [hisolation] at h
      cases h
    | some _ =>
      rw [hisolation] at h
      obtain ⟨isolation, -, h⟩ := Json.of_bind_eq_ok h
      obtain ⟨maxConnections, -, h⟩ := Json.of_bind_eq_ok h
      cases h
      simp only [htext, Option.map_some, Option.filter_some]
      cases splitAccounts text <;> rfl

end Settings

/-! ### Instances of a plan -/

/-- An instance that was started by a plan, whatever it has dealt with since. -/
inductive Plan.Runs (p : Plan) : Instance → Prop where
  | start {f : File} {r : Registry} {i : Instance} : (p.start f r).1 = .ok i → p.Runs i
  | notice {i : Instance} (n : Watch.Notice) : p.Runs i → p.Runs (i.notice n)
  | settle {i : Instance} (f : File) (r : Registry) : p.Runs i → p.Runs (i.settle f r).1

theorem Plan.service_of_start {p : Plan} {f : File} {r : Registry} {i : Instance}
    (h : (p.start f r).1 = .ok i) : i.service = ⟨p.terms, p.policy⟩ := by
  unfold Plan.start at h
  split at h
  · cases h
  · split at h
    · cases h
    · cases h
      rfl

theorem Instance.service_settle (i : Instance) (f : File) (r : Registry) :
    (i.settle f r).1.service = i.service := by
  unfold Instance.settle
  split <;> rfl

/-- **An instance serves under the terms and the policy of its plan.** -/
theorem Plan.Runs.service {p : Plan} {i : Instance} (h : p.Runs i) :
    i.service = ⟨p.terms, p.policy⟩ := by
  induction h with
  | start h => exact service_of_start h
  | notice n _ ih => exact ih
  | settle f r _ ih => exact (Instance.service_settle _ f r).trans ih

/-! ### Changes under a policy -/

/-- What a request asks leave for, if it is a change. -/
def Request.action? : Request α → Option Action
  | .save _ => some .save
  | .delete _ => some .delete
  | .link _ _ _ => some .link
  | .unlink _ _ => some .unlink
  | .load _ | .find _ | .list _ | .clustersOf _ => none

namespace Service

variable {s : Service} {who : Caller} {what : Action}

theorem serve_of_action {q : Request α} (h : q.action? = some what) :
    ∃ w, s.serve who q = s.change who what w := by
  cases q with
  | save c => cases h; exact ⟨c.normalize.map saveWork, rfl⟩
  | delete id => cases h; exact ⟨.ok (deleteWork id), rfl⟩
  | link identity url ignoreExisting =>
    cases h
    exact ⟨.ok (linkWork identity (withSlash url) ignoreExisting), rfl⟩
  | unlink identity url => cases h; exact ⟨.ok (unlinkWork identity (withSlash url)), rfl⟩
  | load _ | find _ | list _ | clustersOf _ => cases h

/-- Who is not allowed to make changes makes none. -/
theorem serve_of_not_allows (h : s.policy.allows who = false) {q : Request α}
    (hq : q.action? = some what) (r : Registry) :
    s.serve who q r = (.error (.unauthorized (who.render ++ " may not " ++ what.render)), r) := by
  obtain ⟨w, hserve⟩ : ∃ w, s.serve who q = s.change who what w := serve_of_action hq
  have hauth : s.policy.authorize who what =
      .error (.unauthorized (who.render ++ " may not " ++ what.render)) := by
    simp [Policy.authorize, h]
  simp only [hserve, change, hauth]

theorem change_of_allows (h : s.policy.allows who = true) (w : Except Error (Work Unit α)) :
    s.change who what w = (⟨s.terms, .everyone⟩ : Service).change who what w := by
  have hauth : s.policy.authorize who what = .ok () := by simp [Policy.authorize, h]
  funext r
  simp only [change, hauth]
  rfl

/-- Who is allowed to make changes is served as if everyone were. -/
theorem serve_of_allows (h : s.policy.allows who = true) (q : Request α) :
    s.serve who q = (⟨s.terms, .everyone⟩ : Service).serve who q := by
  cases q with
  | save c => exact change_of_allows h (c.normalize.map saveWork)
  | delete id => exact change_of_allows h (.ok (deleteWork id))
  | link identity url ignoreExisting =>
    exact change_of_allows h (.ok (linkWork identity (withSlash url) ignoreExisting))
  | unlink identity url => exact change_of_allows h (.ok (unlinkWork identity (withSlash url)))
  | load _ | find _ | list _ | clustersOf _ => rfl

end Service

/-! ### Instances that only some accounts may change -/

/-- A change is refused to everyone but these service accounts, and the registry stays as it is. -/
def Instance.RefusesOthers (i : Instance) (accounts : String → Prop) : Prop :=
  ∀ who, (∀ name, accounts name → who ≠ .serviceAccount name) →
    ∀ {α : Type} (q : Request α) (what : Action), q.action? = some what → ∀ r : Registry,
      i.service.serve who q r =
        (.error (.unauthorized (who.render ++ " may not " ++ what.render)), r)

/-- These service accounts can make changes as if there were no policy, and nobody else can. -/
structure Instance.Guarded (i : Instance) (accounts : String → Prop) : Prop where
  served : ∀ name, accounts name → ∀ {α : Type} (q : Request α) (r : Registry),
    i.service.serve (.serviceAccount name) q r =
      (⟨i.service.terms, .everyone⟩ : Service).serve (.serviceAccount name) q r
  refused : i.RefusesOthers accounts

theorem Policy.allows_only {names : List String} {who : Caller} :
    (only names).allows who = true ↔ ∃ name ∈ names, who = .serviceAccount name := by
  cases who <;> simp [allows]

theorem Instance.guarded_of_only {i : Instance} {names : List String}
    (h : i.service.policy = .only names) : i.Guarded (· ∈ names) where
  served name hname α q r := by
    have hallows : i.service.policy.allows (.serviceAccount name) = true := by
      rw [h]
      exact Policy.allows_only.2 ⟨name, hname, rfl⟩
    rw [Service.serve_of_allows hallows q]
  refused who hwho α q what hq r := by
    have hrefused : i.service.policy.allows who = false := by
      rw [h, Bool.eq_false_iff, ne_eq, Policy.allows_only]
      rintro ⟨name, hname, rfl⟩
      exact hwho name hname rfl
    exact Service.serve_of_not_allows hrefused hq r

namespace Settings

variable {text : String} {env : Environment} {settings : Settings}

/-- **A text that names an account lets the accounts that it names make changes and nobody else**,
    and one that names nobody leaves the policy as it is. -/
theorem text_guards {p : Plan} {i : Instance} (h : ofEnvironment env = .ok settings)
    (htext : env.get? (key "SERVICE_ACCOUNTS") = some text) (hruns : (p.withSettings settings).Runs i) :
    ((∃ name, Names text name) → i.Guarded (Names text)) ∧
      ((¬ ∃ name, Names text name) → i.service.policy = p.policy) := by
  have haccounts := accounts_of_ofEnvironment h htext
  have hpolicy : i.service.policy = (p.withSettings settings).policy := by rw [hruns.service]
  have hnames : (· ∈ splitAccounts text) = Names text := by
    funext name
    exact propext mem_splitAccounts
  constructor
  · rintro ⟨name, hname⟩
    have hne : (splitAccounts text).isEmpty = false := by
      rw [List.isEmpty_eq_false_iff]
      exact List.ne_nil_of_mem (mem_splitAccounts.2 hname)
    rw [hne] at haccounts
    rw [← hnames]
    apply Instance.guarded_of_only
    rw [hpolicy, Plan.withSettings, haccounts]
    rfl
  · intro hnobody
    have hempty : (splitAccounts text).isEmpty = true := by
      rw [List.isEmpty_iff, List.eq_nil_iff_forall_not_mem]
      exact fun name hname => hnobody ⟨name, mem_splitAccounts.1 hname⟩
    rw [hempty] at haccounts
    rw [hpolicy, Plan.withSettings, haccounts]
    rfl

/-! ### Texts with and without a name -/

/-- The variables of an instance whose accounts are given by a text. -/
def withAccounts (text : String) : Environment :=
  [(key "DATABASE_URL", "sqlite::memory:"), (key "SERVICE_ACCOUNTS", text)]

/-- What these variables give. -/
def ofAccounts (accounts : Option (List String)) : Settings where
  database := "sqlite::memory:"
  maxConnections := 10
  clusterFile := defaultClusterFile
  timeout := .ofSecs 300
  isolation := .unset
  watch := true
  accounts := accounts

/-- An instance with these settings can be started. -/
theorem exists_start (accounts : Option (List String)) :
    ∃ i, ((({} : Plan).withSettings (ofAccounts accounts)).start (.text loopbackText)
      (Context.blank .sqlite)).1 = .ok i := by
  have hload : Source.load defaultClusterFile (.text loopbackText) =
      .ok ⟨defaultClusterFile, loopbackSnapshot⟩ := by
    unfold Source.load
    rw [show File.load defaultClusterFile (.text loopbackText) = _ from ofText_loopbackText]
    rfl
  have hsync : ((Context.blank .sqlite).sync ⟨.ofSecs 300, .unset⟩ loopbackSnapshot).1.isOk = true := by
    decide +kernel
  simp only [Plan.start, Plan.withSettings, ofAccounts, hload]
  rcases hrun : (Context.blank .sqlite).sync ⟨.ofSecs 300, .unset⟩ loopbackSnapshot with ⟨e | rep, r⟩
  · rw [hrun] at hsync
    cases hsync
  · exact ⟨_, rfl⟩

theorem tenants_guard :
    ofEnvironment (withAccounts "tenant, auth ,,") = .ok (ofAccounts (some ["tenant", "auth"])) ∧
      (withAccounts "tenant, auth ,,").get? (key "SERVICE_ACCOUNTS") = some "tenant, auth ,," ∧
      Names "tenant, auth ,," "auth" ∧
      ∃ i, (({} : Plan).withSettings (ofAccounts (some ["tenant", "auth"]))).Runs i ∧
        i.Guarded (Names "tenant, auth ,,") := by
  have hsettings : ofEnvironment (withAccounts "tenant, auth ,,") =
      .ok (ofAccounts (some ["tenant", "auth"])) := by rfl
  have htext : (withAccounts "tenant, auth ,,").get? (key "SERVICE_ACCOUNTS") =
      some "tenant, auth ,," := by rfl
  have hname : Names "tenant, auth ,," "auth" := mem_splitAccounts.1 (by decide +kernel)
  obtain ⟨i, hi⟩ := exists_start (some ["tenant", "auth"])
  have hruns := Plan.Runs.start hi
  exact ⟨hsettings, htext, hname, i, hruns,
    (text_guards hsettings htext hruns).1 ⟨"auth", hname⟩⟩

/-- **A text that names nobody does not keep anybody away.** -/
theorem blank_refuses_nobody :
    ¬ ∀ env settings text f r i, ofEnvironment env = .ok settings →
      env.get? (key "SERVICE_ACCOUNTS") = some text →
        ((({} : Plan).withSettings settings).start f r).1 = .ok i → i.RefusesOthers (Names text) := by
  intro h
  obtain ⟨i, hi⟩ := exists_start none
  have hothers := h (withAccounts " , ") (ofAccounts none) " , " _ _ i (by rfl) (by rfl) hi
  have hnobody : ∀ name, Names " , " name → Caller.serviceAccount "intruder" ≠ .serviceAccount name := by
    intro name hname
    have hmem := mem_splitAccounts.2 hname
    rw [show splitAccounts " , " = [] by decide +kernel] at hmem
    cases hmem
  -- the row of the file has the first identifier of the registry
  have hrefused := hothers _ hnobody (.delete ⟨0⟩) .delete rfl
    ((Context.blank .sqlite).sync Context.halfMinute loopbackSnapshot).2
  rw [Plan.service_of_start hi] at hrefused
  have hdone : (((⟨⟨.ofSecs 300, .unset⟩, .everyone⟩ : Service).serve (.serviceAccount "intruder")
      (.delete ⟨0⟩) ((Context.blank .sqlite).sync Context.halfMinute loopbackSnapshot).2).1).isOk = true := by
    decide +kernel
  have hfails := congrArg (fun x => x.1.isOk) hrefused
  exact absurd (hdone.symm.trans hfails) (by decide)

end Settings

end Fleet
