/-
  DeclExport.Proofs.Command.Delivery
  ────────────────────────────────
  **A RUN DELIVERS ALL OF ITS DOCUMENT OR NOTHING.**

  Everything that can fail for the sake of the document fails before anything is
  delivered, and making a directory or opening the output fails before a byte of it is
  written.  So a run that fails leaves every file as it was, and every stream but standard
  error, where it reports the failure (`Undisturbed`, `stderr_run_of_fatal`).  A run that
  succeeds had a valid unit to export, and its whole document is where it was asked for,
  and nowhere else (`Delivered`):

      no output named        on standard output
      a file or nothing      in that file, which holds nothing else
      a device               on that device, which may be a stream of the run
-/
import DeclExport.Command.Run
import DeclExport.Proofs.Command.Paths
import DeclExport.Proofs.Source.Validity

namespace DeclExport.Command

/-! ## §1. What a run leaves behind. -/

namespace Workspace

/-- No file is new or changed, and nothing was written to a device but standard error.
There may be new directories. -/
structure Undisturbed (before after : Workspace) : Prop where
  files : after.files = before.files
  devices : ∀ device ≠ .stderr, after.taken device = before.taken device

/-- The whole text is where it was to be written, and nowhere else. -/
inductive Delivered (before after : Workspace) (text : String) : Option String → Prop
  | stdout (printed : after = before.take .stdout text) : Delivered before after text none
  | file {path : String} {target : Place} (named : after.Names path target (.file text.toUTF8))
      (readBack : after.read path = .ok text.toUTF8)
      (others : ∀ other ≠ target, after.files.lookup other = before.files.lookup other)
      (silent : after.taken = before.taken) : Delivered before after text (some path)
  | device {path : String} {target : Place} {device : Device}
      (named : after.Names path target (.device device))
      (took : after.taken device = before.taken device ++ text)
      (others : ∀ other ≠ device, after.taken other = before.taken other)
      (files : after.files = before.files) : Delivered before after text (some path)

/-- A workspace that differs in its directories at most. -/
def SameButDirectories (before after : Workspace) : Prop :=
  ∃ directories, after = { before with directories }

theorem SameButDirectories.refl (w : Workspace) : w.SameButDirectories w :=
  ⟨w.directories, rfl⟩

theorem SameButDirectories.trans {u v w : Workspace} (huv : u.SameButDirectories v)
    (hvw : v.SameButDirectories w) : u.SameButDirectories w := by
  obtain ⟨_, rfl⟩ := huv
  obtain ⟨directories, rfl⟩ := hvw
  exact ⟨directories, rfl⟩

/-- A report that follows disturbs nothing. -/
theorem SameButDirectories.undisturbed_take {before after : Workspace}
    (h : before.SameButDirectories after) (report : String) :
    before.Undisturbed (after.take .stderr report) := by
  obtain ⟨directories, rfl⟩ := h
  exact ⟨rfl, fun device hdevice => taken_take_of_ne _ hdevice report⟩

theorem SameButDirectories.undisturbed {before after : Workspace}
    (h : before.SameButDirectories after) : before.Undisturbed after := by
  obtain ⟨directories, rfl⟩ := h
  exact ⟨rfl, fun _ _ => rfl⟩

/-- What the pieces lead to does not depend on what a device took. -/
theorem Leads.take {w : Workspace} {place target : Place} {pieces : List String} {node : Node}
    (h : w.Leads place pieces target node) (device : Device) (text : String) :
    (w.take device text).Leads place pieces target node := by
  induction h with
  | last hstep => exact .last hstep
  | through hstep _ ih => exact .through hstep ih

theorem eq_of_writeDevice {w w' : Workspace} {text : String} {device : Device}
    (h : w.writeDevice text device = .ok w') : w' = w.take device text := by
  rw [writeDevice] at h
  split at h
  next => cases h
  next => exact (Except.ok.inj h).symm

/-- **What is written is delivered** to what the path names. -/
theorem delivered_of_write {before w w' : Workspace} {path text : String}
    (hw : before.SameButDirectories w) (h : w.write path text = .ok w') :
    before.Delivered w' text (some path) := by
  obtain ⟨directories, rfl⟩ := hw
  rw [write] at h
  cases hchecked : checkPath path with
  | error fault => rw [hchecked] at h; cases h
  | ok _ =>
      rw [hchecked] at h
      obtain ⟨target, node, hleads, hwritten⟩ := exists_leads_of_writeFrom h
      cases node with
      | directory => cases hwritten
      | device device =>
          obtain rfl := eq_of_writeDevice hwritten
          exact .device ⟨hchecked, hleads.take device text⟩ (taken_take_self ..)
            (fun other hother => taken_take_of_ne _ hother text) rfl
      | file _ | nothing =>
          obtain rfl := Except.ok.inj hwritten
          have hnamed : Names (withFile _ target text.toUTF8) path target (.file text.toUTF8) :=
            ⟨hchecked, hleads.withFile (by simp)⟩
          refine .file hnamed (read_of_names hnamed) (fun other hother => ?_) rfl
          simp [withFile, lookup_setFile, hother]

end Workspace

/-! ## §2. What only makes directories. -/

section OnlyMakes

variable {α β : Type}

/-- An operation and what goes on from its answer. -/
theorem ask_bind (w : Workspace) (operation : StateM Workspace α)
    (next : α → StateM Workspace β) :
    w.ask (operation >>= next) = (w.ask operation).2.ask (next (w.ask operation).1) :=
  rfl

/-- An operation after which nothing has changed but the directories. -/
def OnlyMakes (operation : StateM Workspace α) : Prop :=
  ∀ w : Workspace, w.SameButDirectories (w.ask operation).2

theorem OnlyMakes.bind {operation : StateM Workspace α} {next : α → StateM Workspace β}
    (h : OnlyMakes operation) (hnext : ∀ answer, OnlyMakes (next answer)) :
    OnlyMakes (operation >>= next) := by
  intro w
  rw [ask_bind]
  exact (h w).trans (hnext _ _)

theorem onlyMakes_pure (answer : α) : OnlyMakes (pure answer) := fun w => .refl w

/-- A change that is made, or a fault and no change. -/
theorem ask_attempt (w : Workspace) (change : Workspace → Except IoFault Workspace) :
    w.ask (Workspace.attempt change)
      = match change w with
        | .error fault => (.error fault, w)
        | .ok after => (.ok (), after) := by
  -- the workspace is read first, so that the change is made in `w` itself
  show w.ask (match change w with | .error _ => _ | .ok _ => _) = _
  cases change w with
  | error fault => rfl
  | ok after => rfl

theorem onlyMakes_makeDirectory (path : String) : OnlyMakes (Host.makeDirectory path) := by
  intro w
  show w.SameButDirectories (w.ask (Workspace.attempt (·.makeDirectory path))).2
  rw [ask_attempt]
  cases hmade : w.makeDirectory path with
  | error fault => exact .refl w
  | ok after => exact Workspace.eq_of_makeDirectory hmade

theorem onlyMakes_unlessThere (path : String) (made : Except IoFault Unit) :
    OnlyMakes (unlessThere path made) := by
  cases made with
  | ok _ => exact onlyMakes_pure _
  | error fault =>
      have hlook : OnlyMakes (Host.isDirectory path) := fun w => .refl w
      refine hlook.bind fun there => ?_
      cases there with
      | true => exact onlyMakes_pure _
      | false => exact onlyMakes_pure _

/-- **Making a way** makes directories and nothing else, wherever it stops. -/
theorem onlyMakes_makeWay (names : List String) : OnlyMakes (makeWay names) := by
  induction names with
  | nil => exact onlyMakes_pure _
  | cons name before ih =>
      rw [makeWay]
      split
      next => exact ih
      next =>
        refine (onlyMakes_makeDirectory _).bind fun made => ?_
        split
        next =>
          -- a name is missing, so the way to it is made first
          refine ih.bind fun way => ?_
          cases way with
          | error fault => exact onlyMakes_pure _
          | ok _ =>
              exact (onlyMakes_makeDirectory _).bind fun made => onlyMakes_unlessThere _ made
        next => exact onlyMakes_unlessThere _ _

theorem onlyMakes_makeParent (path : String) : OnlyMakes (makeParent path) := by
  rw [makeParent]
  split
  next => exact onlyMakes_pure _
  next parent _ =>
    refine OnlyMakes.bind ?_ fun made => onlyMakes_pure _
    rw [makeDirectories]
    split
    next => exact onlyMakes_pure _
    next => exact onlyMakes_makeWay _

end OnlyMakes

/-! ## §3. What becomes of a document. -/

/-- A document that is written is delivered; for one that is not, directories have been
made at most. -/
def Settles (before : Workspace) (document : String) (output : Option String) :
    Except Fatal Unit × Workspace → Prop
  | (.ok (), after) => before.Delivered after document output
  | (.error _, after) => before.SameButDirectories after

/-- **Delivery settles**: directories come first, and a fault in making them or in
opening the file comes before the document. -/
theorem settles_deliver (w : Workspace) (output : Option String) (document : String) :
    Settles w document output (w.ask (deliver output document)) := by
  cases output with
  | none => exact .stdout rfl
  | some path =>
      have hparent := onlyMakes_makeParent path w
      rw [deliver, ask_bind]
      generalize w.ask (makeParent path) = result at hparent ⊢
      obtain ⟨_ | _, made⟩ := result
      · exact hparent
      · -- from here on the workspace differs from `w` in its directories at most
        show Settles w document (some path)
          (made.ask (Workspace.attempt (·.write path document) >>= fun written =>
            pure (written.mapError (Fatal.output path))))
        rw [ask_bind, ask_attempt]
        cases hwritten : made.write path document with
        | error fault => exact hparent
        | ok after => exact Workspace.delivered_of_write hparent hwritten

/-- What the arguments ask of a unit is exported without a failure, and this is the
whole text of it. -/
inductive Arguments.Exports (a : Arguments) (u : SourceUnit) (document : String) : Prop
  | declaration {name : String} {d : Decl} (asked : a.decl = some name)
      (found : u.findDecl? name = some d)
      (succeeded : (d.exportTerm u renderTerm .unbounded).failure = none)
      (whole : (d.exportTerm u renderTerm .unbounded).sink.text = document)
  | unit {options : ExportOptions} (asked : a.decl = none) (options_eq : a.options = .ok options)
      (succeeded : (u.exportDocument options renderTerm .unbounded).failure = none)
      (whole : (u.exportDocument options renderTerm .unbounded).sink.text = document)

theorem delivered_eq_ok_iff {d : Delivery} {text : String} :
    Arguments.delivered d = .ok text ↔ d.failure = none ∧ d.sink.text = text := by
  rw [Arguments.delivered]
  cases d.failure with
  | none => simp
  | some failure => simp

/-- A document is produced from a unit exactly if it is what the arguments ask of it. -/
theorem Arguments.exported_eq_ok_iff {a : Arguments} {u : SourceUnit} {document : String} :
    a.exported u = .ok document ↔ a.Exports u document := by
  constructor
  · intro h
    rw [exported] at h
    split at h
    next name hdecl =>
      split at h
      next => cases h
      next d hfound =>
        obtain ⟨hsucceeded, hwhole⟩ := delivered_eq_ok_iff.mp h
        exact .declaration hdecl hfound hsucceeded hwhole
    next hdecl =>
      split at h
      next => cases h
      next options hoptions =>
        obtain ⟨hsucceeded, hwhole⟩ := delivered_eq_ok_iff.mp h
        exact .unit hdecl hoptions hsucceeded hwhole
  · intro h
    rw [exported]
    cases h with
    | declaration asked found succeeded whole =>
        simpa [asked, found] using delivered_eq_ok_iff.mpr ⟨succeeded, whole⟩
    | unit asked options_eq succeeded whole =>
        simpa [asked, options_eq] using delivered_eq_ok_iff.mpr ⟨succeeded, whole⟩

/-- The text that a run reads, or why there is none. -/
def Workspace.source (w : Workspace) (a : Arguments) : Except Fatal String :=
  (w.ask (Command.source a)).1

/-- Reading changes nothing. -/
theorem ask_produce (w : Workspace) (a : Arguments) :
    w.ask (produce a) = ((w.source a).bind a.document, w) := by
  rw [produce, ask_bind, Workspace.source, source]
  cases a.input with
  | none => rfl
  | some path => rfl

/-- **What a run produces** is an export of the unit that it read. -/
theorem produced_eq_ok_iff {w : Workspace} {a : Arguments} {document : String} :
    (w.ask (produce a)).1 = .ok document
      ↔ ∃ text u, w.source a = .ok text ∧ SourceUnit.ofText text = .ok u
        ∧ a.Exports u document := by
  rw [ask_produce]
  cases w.source a with
  | error fatal => simp [Except.bind]
  | ok text =>
      cases hu : SourceUnit.ofText text with
      | error failure => simp [Except.bind, Arguments.document, hu]
      | ok u => simp [Except.bind, Arguments.document, hu, Arguments.exported_eq_ok_iff]

/-- The run that the arguments ask for, after the log directives are read: a document is
produced, and then it settles. -/
theorem ask_execute (w : Workspace) (a : Arguments) :
    w.ask (execute a)
      = match (w.ask (produce a)).1 with
        | .error fatal => (.error fatal, w)
        | .ok document => w.ask (deliver a.output document) := by
  rw [execute, ask_bind, ask_produce]
  cases (w.source a).bind a.document with
  | error fatal => rfl
  | ok document => rfl

/-! ## §4. THE DELIVERY THEOREM. -/

/-- Everything that a run can come to. -/
inductive ComesTo (w : Workspace) (environment : Option String) (args : List String) :
    Result → Prop
  | help (asked : parse args = .help) :
      ComesTo w environment args ⟨⟨0, none⟩, w.take .stdout helpText⟩
  | version (asked : parse args = .version) :
      ComesTo w environment args ⟨⟨0, none⟩, w.take .stdout versionText⟩
  | misuse (asked : parse args = .misuse) :
      ComesTo w environment args ⟨⟨2, none⟩, w.take .stderr usageText⟩
  | broken {a : Arguments} (asked : parse args = .run a)
      (logging : a.logging environment = .broken) : ComesTo w environment args ⟨⟨101, none⟩, w⟩
  | failed {a : Arguments} {fatal : Fatal} {after : Workspace} (asked : parse args = .run a)
      (made : w.SameButDirectories after) :
      ComesTo w environment args
        ⟨⟨1, some fatal⟩, after.take .stderr (fatal.reportWith Json.Fault.message)⟩
  | delivered {a : Arguments} {document : String} {after : Workspace}
      (asked : parse args = .run a) (logging : a.logging environment = .accepted)
      (produced : (w.ask (produce a)).1 = .ok document)
      (delivered : w.Delivered after document a.output) :
      ComesTo w environment args ⟨⟨0, none⟩, after⟩

theorem run_comesTo (w : Workspace) (environment : Option String) (args : List String) :
    ComesTo w environment args (run w environment args) := by
  rw [run, perform]
  cases hparse : parse args with
  | help => exact .help hparse
  | version => exact .version hparse
  | misuse => exact .misuse hparse
  | run a =>
      simp only
      cases hlogging : a.logging environment with
      | broken => exact .broken hparse hlogging
      | refused => exact .failed hparse (.refl w)
      | accepted =>
          simp only
          rw [ask_bind, ask_execute]
          cases hproduced : (w.ask (produce a)).1 with
          | error fatal => exact .failed hparse (.refl w)
          | ok document =>
              have hsettles := settles_deliver w a.output document
              simp only
              generalize w.ask (deliver a.output document) = result at hsettles ⊢
              obtain ⟨fatal | _, after⟩ := result
              · exact .failed hparse hsettles
              · exact .delivered hparse hlogging hproduced hsettles

/-- A failure is reported on standard error, and nothing else is written there. -/
theorem stderr_run_of_fatal {w : Workspace} {environment : Option String} {args : List String}
    {fatal : Fatal} (h : (run w environment args).fatal = some fatal) :
    (run w environment args).workspace.stderr
      = w.stderr ++ fatal.reportWith Json.Fault.message := by
  have hcomes := run_comesTo w environment args
  generalize run w environment args = result at hcomes h ⊢
  cases hcomes with
  | help | version | misuse | broken | delivered => cases h
  | failed _ made =>
      obtain rfl := Option.some.inj h
      obtain ⟨directories, rfl⟩ := made
      exact Workspace.taken_take_self ..

/-- A document that there is gets printed, where no output is named. -/
theorem status_run_of_exports {w : Workspace} {environment : Option String} {args : List String}
    {a : Arguments} {text document : String} {u : SourceUnit} (hparse : parse args = .run a)
    (hlogging : a.logging environment = .accepted) (hsource : w.source a = .ok text)
    (hu : SourceUnit.ofText text = .ok u) (hexports : a.Exports u document)
    (houtput : a.output = none) : (run w environment args).status = 0 := by
  have hproduced := produced_eq_ok_iff.mpr ⟨text, u, hsource, hu, hexports⟩
  rw [run, perform, hparse]
  simp only [hlogging]
  rw [ask_bind, ask_execute, hproduced, houtput]
  rfl

/-- A unit with one alias, as a front end writes it. -/
def aliasText : String :=
  "\x7b\"files\": [], \"decls\": [\x7b\"id\": 1, \"name\": \"x\", "
    ++ "\"kind\": \x7b\"typedef\": \x7b\"ty\": \"bool\"\x7d\x7d\x7d]\x7d"

/-- An empty directory, with the alias on standard input. -/
def Workspace.ofAlias : Workspace := .ofFiles [] aliasText.toUTF8

/-- Standard error may be named as well, and then holds the document. -/
example : (run .ofAlias none ["--decl", "x", "-o", "/dev/stderr"]).workspace.stderr
    = "Dtypedef \"x\" Tbool\n" := by
  decide +kernel

end DeclExport.Command
