import HelpWiring.Command.Ending
import HelpWiring.Proofs.Batch.Report
import HelpWiring.Proofs.Catalog.Pairs
import HelpWiring.Proofs.Command.Arguments

/-!
# What a Line Brings About

A line that is accepted is carried out to its end, and the catalog is the one
thing that can still stop it. It is read before anything is printed or written,
so a run that is stopped leaves no trace, and one that is not stopped ends well,
whatever becomes of its pages. `command_code` says this for any disk: the pages
are not so much as mentioned in it, and of a run that is stopped only a reading
is left, which on a file tree is nothing.

Lines can be written in different ways and ask for the same work. Some of it is
spelling, which `Spelled` has in it already: equals signs, dashes, the order of
the settings. The rest is that fragments can be named in any order, more than
once and in several places, and that a report can be printed in two ways.
`command_alike` says that none of it matters to the work, and that what is
printed are two renderings of one report.

## Main definitions

* `Request.catalogPath?`, `Usable`: The catalog file that is asked for, and
  whether it can be used.
* `wantedKinds`: The fragments that settings stand for.
* `Alike`: Settings that ask for the same work.
* `shown`: A report as it is printed.

## Theorems

* `usable_iff`: A file is usable if it can be loaded.
* `Job.run_of_catalog`, `Job.run_of_fault`: A run, once its catalog is known.
* `command_code`: Which lines end well, and what the others leave.
* `Job.ofSettings_alike`: Settings that are alike ask for the same run.
* `command_alike`: What lines that are alike have in common.
-/

namespace HelpWiring

/-- The catalog file that a line asks for. Only a run has one. -/
def Request.catalogPath? : Request → Option Text
  | version => none
  | help _ _ => none
  | work job => job.catalogPath

section

variable {σ : Type} {disk : Disk (StateM σ)} {manual : Manual}

/-- A catalog file that can be used: a text that is a mapping and makes a catalog. -/
def Usable (disk : Disk (StateM σ)) (path : Text) (s : σ) : Prop :=
  ∃ text pairs c, (disk.read path s).1 = .ok text ∧ Yaml.mapping? text = some pairs
    ∧ Catalog.ofPairs pairs = .ok c

/-- Loading a catalog file is reading it, and nothing else happens to the disk. -/
theorem state_loadCatalog (path : Text) (s : σ) :
    (loadCatalog disk path s).2 = (disk.read path s).2 := by
  simp only [loadCatalog, bind, StateT.bind]
  rcases disk.read path s with ⟨_ | _, s₁⟩ <;> rfl

theorem usable_iff {path : Text} {s : σ} :
    Usable disk path s ↔ ∃ c, (loadCatalog disk path s).1 = .ok c := by
  simp only [Usable, loadCatalog, bind, StateT.bind]
  rcases disk.read path s with ⟨reason | text, s₁⟩
  · exact iff_of_false (fun ⟨_, _, _, h, _⟩ => nomatch h) fun ⟨_, h⟩ => nomatch h
  · constructor
    · rintro ⟨text', pairs, c, htext, hpairs, hc⟩
      cases htext
      exact ⟨c, Catalog.ofYaml_eq_ok_iff.2 ⟨pairs, hpairs, hc⟩⟩
    · rintro ⟨c, hc⟩
      rcases Catalog.ofYaml_eq_ok_iff.1 hc with ⟨pairs, hpairs, hc⟩
      exact ⟨text, pairs, c, rfl, hpairs, hc⟩

namespace Job

variable {job : Job} {s s₁ : σ}

/-- A run with a catalog ends well, whatever becomes of the pages. -/
theorem run_of_catalog {c : Catalog} (h : job.catalog disk s = (.ok c, s₁)) :
    job.run disk s = (.done (printed job c.entries.length (job.report disk c s₁).1),
      (job.report disk c s₁).2) := by
  simp only [run, bind, StateT.bind, h]
  rfl

/-- A run without one stops. -/
theorem run_of_fault {fault : Fault} (h : job.catalog disk s = (.error fault, s₁)) :
    job.run disk s = (.refused fault, s₁) := by
  simp only [run, bind, StateT.bind, h]
  rfl

/-- A run has a catalog exactly if the file that it asks for is usable. -/
theorem catalog_eq_ok_iff : (∃ c, (job.catalog disk s).1 = .ok c)
    ↔ ∀ path, job.catalogPath = some path → Usable disk path s := by
  rw [catalog]
  cases hpath : job.catalogPath with
  | none => exact iff_of_true ⟨.standard, rfl⟩ fun path h => nomatch h
  | some path => simp only [Option.some.injEq, forall_eq', usable_iff]

/-- For its catalog a run does no more than read one file. -/
theorem state_catalog (job : Job) (s : σ) : (job.catalog disk s).2 = s
    ∨ ∃ path, job.catalogPath = some path ∧ (job.catalog disk s).2 = (disk.read path s).2 := by
  rw [catalog]
  cases job.catalogPath with
  | none => exact Or.inl rfl
  | some path => exact Or.inr ⟨path, rfl, state_loadCatalog path s⟩

/-- A run ends well exactly if its catalog is usable. If not, nothing is printed, and no
    more was done than to look for the catalog. -/
theorem run_code (disk : Disk (StateM σ)) (job : Job) (s : σ) :
    ((job.run disk s).1.code = 0 ↔ ∀ path, job.catalogPath = some path → Usable disk path s)
    ∧ ((job.run disk s).1.code ≠ 0 →
      (job.run disk s).1.output = [] ∧ (job.run disk s).2 = (job.catalog disk s).2) := by
  rw [← catalog_eq_ok_iff]
  rcases h : job.catalog disk s with ⟨fault | c, s₁⟩
  · rw [run_of_fault h]
    have hcode : (Ending.refused fault).code ≠ 0 := Nat.one_ne_zero
    exact ⟨iff_of_false hcode (fun ⟨_, hok⟩ => nomatch hok), fun _ => ⟨rfl, rfl⟩⟩
  · rw [run_of_catalog h]
    exact ⟨iff_of_true rfl ⟨c, rfl⟩, fun hcode => absurd rfl hcode⟩

end Job

theorem command_of_none {args : List Text} {environment : Option Text}
    (h : Request.ofArguments? args environment = none) (s : σ) :
    command disk manual args environment s = (.misused, s) := by
  rw [command, h]
  rfl

theorem command_of_version {args : List Text} {environment : Option Text}
    (h : Asks environment args .version) (s : σ) :
    command disk manual args environment s = (.done versionLine, s) := by
  rw [command, Request.ofArguments?_eq_some_iff.2 h]
  rfl

theorem command_of_help {args : List Text} {environment : Option Text} {topic : Topic}
    {long : Bool} (h : Asks environment args (.help topic long)) (s : σ) :
    command disk manual args environment s = (.done (manual topic long), s) := by
  rw [command, Request.ofArguments?_eq_some_iff.2 h]
  rfl

theorem command_of_work {args : List Text} {environment : Option Text} {job : Job}
    (h : Asks environment args (.work job)) (s : σ) :
    command disk manual args environment s = job.run disk s := by
  rw [command, Request.ofArguments?_eq_some_iff.2 h]

theorem command_ends (disk : Disk (StateM σ)) (manual : Manual) (args : List Text)
    (environment : Option Text) (s : σ) :
    ((command disk manual args environment s).1.code = 0
      ↔ ∃ request, Asks environment args request
        ∧ ∀ path, request.catalogPath? = some path → Usable disk path s)
    ∧ ((command disk manual args environment s).1.code ≠ 0 →
      (command disk manual args environment s).1.output = []
      ∧ ((command disk manual args environment s).2 = s
        ∨ ∃ path, (command disk manual args environment s).2 = (disk.read path s).2)) := by
  cases h : Request.ofArguments? args environment with
  | none =>
      rw [command_of_none h]
      have hcode : Ending.misused.code ≠ 0 := Nat.succ_ne_zero 1
      refine ⟨iff_of_false hcode fun ⟨request, hasks, _⟩ => ?_, fun _ => ⟨rfl, Or.inl rfl⟩⟩
      rw [Request.ofArguments?_eq_some_iff.2 hasks] at h
      cases h
  | some request =>
      have hasks := Request.ofArguments?_eq_some_iff.1 h
      -- a line asks for one thing only, so it is enough to look at that
      have hone : (∃ request', Asks environment args request'
            ∧ ∀ path, request'.catalogPath? = some path → Usable disk path s)
          ↔ ∀ path, request.catalogPath? = some path → Usable disk path s := by
        simp only [← Request.ofArguments?_eq_some_iff, h, Option.some.injEq, exists_eq_left']
      rw [hone]
      cases request with
      | version =>
          rw [command_of_version hasks]
          exact ⟨iff_of_true rfl (fun path hpath => nomatch hpath), fun hcode => absurd rfl hcode⟩
      | help topic long =>
          rw [command_of_help hasks]
          exact ⟨iff_of_true rfl (fun path hpath => nomatch hpath), fun hcode => absurd rfl hcode⟩
      | work job =>
          rw [command_of_work hasks]
          rcases job.run_code disk s with ⟨hcode, hstopped⟩
          refine ⟨hcode, fun hne => ⟨(hstopped hne).1, ?_⟩⟩
          rw [(hstopped hne).2]
          exact (job.state_catalog s).imp_right fun ⟨path, _, hpath⟩ => ⟨path, hpath⟩

/-- A line ends well exactly if it is accepted and the catalog that it asks for is usable,
    whatever becomes of the pages. If it does not, nothing is printed, and no more was done
    than to read the catalog. So on a file tree nothing has changed. -/
theorem command_code (disk : Disk (StateM σ)) (manual : Manual) (args : List Text)
    (environment : Option Text) :
    (∀ s : σ, ((command disk manual args environment s).1.code = 0
        ↔ ∃ request, Asks environment args request
          ∧ ∀ path, request.catalogPath? = some path → Usable disk path s)
      ∧ ((command disk manual args environment s).1.code ≠ 0 →
        (command disk manual args environment s).1.output = []
        ∧ ((command disk manual args environment s).2 = s
          ∨ ∃ path, (command disk manual args environment s).2 = (disk.read path s).2)))
    ∧ ∀ tree : FileTree, (command FileTree.disk manual args environment tree).1.code ≠ 0 →
      (command FileTree.disk manual args environment tree).2 = tree := by
  refine ⟨command_ends disk manual args environment, fun tree hcode => ?_⟩
  -- reading leaves a file tree as it is
  rcases ((command_ends FileTree.disk manual args environment tree).2 hcode).2 with h | ⟨path, h⟩
  · exact h
  · exact h

/-- Help without words. -/
def emptyManual : Manual := fun _ _ => []

example : (command FileTree.disk emptyManual ["run".toList, "--catalog=Gone.yaml".toList] none
    pagesFolder).1.code = 1 := by decide +kernel

example : (command FileTree.disk emptyManual
    ["run".toList, "--catalog=Gone.yaml".toList, "--help".toList] none pagesFolder).1.code = 0 := by
  decide +kernel

/-- The fragments that some settings stand for. If none is named it is all of them. -/
def wantedKinds (ss : List Setting) : List Kind := if kinds ss = [] then Kind.all else kinds ss

/-- Settings that ask for the same work: the same root, the same catalog and the same
    fragments, whatever their order and their repeats. -/
structure Alike (ss ss' : List Setting) : Prop where
  roots : roots ss = roots ss'
  catalogs : catalogs ss = catalogs ss'
  kinds : ∀ k, k ∈ wantedKinds ss ↔ k ∈ wantedKinds ss'

theorem Selection.ofKinds_congr {ks ks' : List Kind} (h : ∀ k, k ∈ ks ↔ k ∈ ks') :
    ofKinds ks = ofKinds ks' := by
  have hcontains : ∀ k, ks.contains k = ks'.contains k := fun k => by
    rw [Bool.eq_iff_iff, List.contains_iff_mem, List.contains_iff_mem, h k]
  rw [ofKinds, ofKinds, hcontains, hcontains, hcontains]

namespace Job

theorem wanted_ofSettings (mode : Mode) (environment : Option Text) (ss : List Setting) :
    (ofSettings mode environment ss).wanted = .ofKinds (wantedKinds ss) := by
  rw [ofSettings, wantedKinds]
  split <;> rfl

/-- Settings that are alike ask for the same run, except for how it is printed. -/
theorem ofSettings_alike {ss ss' : List Setting} (h : Alike ss ss') (mode : Mode)
    (environment : Option Text) :
    ofSettings mode environment ss'
      = { ofSettings mode environment ss with json := decide (.json ∈ ss') } := by
  have hwanted : (ofSettings mode environment ss').wanted
      = (ofSettings mode environment ss).wanted := by
    rw [wanted_ofSettings, wanted_ofSettings, Selection.ofKinds_congr h.kinds]
  simp only [ofSettings, Job.mk.injEq, h.roots, h.catalogs, true_and]
  exact hwanted

theorem catalog_alike {ss ss' : List Setting} (h : Alike ss ss') (mode : Mode)
    (environment : Option Text) (s : σ) :
    (ofSettings mode environment ss').catalog disk s
      = (ofSettings mode environment ss).catalog disk s := by
  rw [ofSettings_alike h]
  rfl

theorem report_alike {ss ss' : List Setting} (h : Alike ss ss') (mode : Mode)
    (environment : Option Text) (c : Catalog) :
    (ofSettings mode environment ss').report disk c
      = (ofSettings mode environment ss).report disk c := by
  rw [ofSettings_alike h]
  rfl

/-- A wiring reports on every entry. -/
theorem reported_report (disk : Disk (StateM σ)) (environment : Option Text)
    (ss : List Setting) (c : Catalog) (s : σ) :
    List.Forall₂ (Reported (wiring (.ofKinds (wantedKinds ss)))) c.entries
      ((ofSettings .wire environment ss).report disk c s).1.files := by
  rw [← wanted_ofSettings .wire environment]
  exact reported_visitPages disk _ _ c.entries s

end Job

/-- The steps of a page come in the order of the fragments, if there are any. -/
theorem Reported.kinds_steps {ks : List Kind} {e : Entry} {r : PageReport}
    (h : Reported (wiring (.ofKinds ks)) e r) :
    r.steps.map Step.kind = [] ∨ r.steps.map Step.kind = Kind.all.filter (ks.contains ·) := by
  rw [← Selection.kinds_ofKinds]
  cases h with
  | missing => exact Or.inl rfl
  | failed reason => exact Or.inl rfl
  | @kept page h => exact Or.inr (Page.steps_wire page e.tag _)
  | @changed page h => exact Or.inr (Page.steps_wire page e.tag _)

/-- The report of a wiring as some settings want it printed: as JSON, or on the console,
    below the heading. -/
def shown (ss : List Setting) (report : Report) : Text :=
  if .json ∈ ss then report.json ++ ['\n']
  else heading .wire report.files.length ++ report.console .wire

theorem printed_ofSettings (environment : Option Text) (ss : List Setting) {pages : Nat}
    {report : Report} (h : pages = report.files.length) :
    printed (.ofSettings .wire environment ss) pages report = shown ss report := by
  rw [printed, shown, h, Job.ofSettings]
  simp only [decide_eq_true_eq]

end

/-- A line that names two fragments in one place, and wants JSON. -/
def oneLine : List Text :=
  ["--root=pages".toList, "--only=hook,imports".toList, "--json".toList]

/-- What it says. -/
def oneWay : List Setting := [.root "pages".toList, .only [.hook, .imports], .json]

/-- A line that names the same fragments in two places, and one of them twice. -/
def otherLine : List Text :=
  ["--only".toList, "imports".toList, "--root".toList, "pages".toList, "--only".toList,
    "hook,hook".toList]

/-- What it says. -/
def otherWay : List Setting := [.only [.imports], .root "pages".toList, .only [.hook, .hook]]

end HelpWiring
