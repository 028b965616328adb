import Mathlib
import JsonSchema.Proofs.Except
import JsonSchema.Proofs.Utf8
import JsonSchema.Settings.Load
/-!
# Precedence of settings

What a file, the environment and a command line give are layers of the same kind (`Settings.Layer`):
each gives some settings and is silent on the others. Settings from several layers are specified
setting by setting (`Settings.ofLayers`): each is that of the highest layer that gives it, where to
say more in one layer is not to be quiet, whatever lower layers say, and the other way around.

`Settings.overlay` puts one layer over settings in this sense, `Settings.replace` does so without
regard to what excludes each other. A command line acts as the former, a file and the environment as
the latter. The two agree where what results makes sense (`overlay_eq_replace`), and `overlay` never
spoils that (`unfit?_overlay`). So settings for a run are those of the layers, except when the
environment and the file clash and the command line does not say how loud to be (`Layer.Clash`).
-/

namespace JsonSchema.Settings

/-! ### Layers -/

/-- What one source of settings gives. -/
structure Layer where
  threads : Option Nat := none
  failFast : Option Bool := none
  format : Option Report.Format := none
  verbose : Option Nat := none
  quiet : Option Bool := none
  extensions : Option (List String) := none
  includePatterns : Option (List String) := none
  excludePatterns : Option (List String) := none
  maxDepth : Option Nat := none
  followLinks : Option Bool := none

namespace Layer

/-- Whether a layer asks for more than the usual output. -/
def Louder (l : Layer) : Prop := 0 < l.verbose.getD 0

instance (l : Layer) : Decidable l.Louder := inferInstanceAs (Decidable (0 < l.verbose.getD 0))

/-- Whether a layer asks for less than the usual output. -/
def Hushed (l : Layer) : Prop := l.quiet = some true

instance (l : Layer) : Decidable l.Hushed := inferInstanceAs (Decidable (l.quiet = some true))

/-- The level of verbosity that a layer leads to: to be quiet is to say no more than usual. -/
def level (l : Layer) : Option Nat := if l.Hushed then some 0 else l.verbose

/-- Whether a layer makes a run quiet: to say more is not to be quiet. -/
def hush (l : Layer) : Option Bool :=
  if l.Hushed then some true else if l.Louder then some false else l.quiet

/-- A list, unless it is empty. -/
def nonempty? {α : Type} (l : List α) : Option (List α) := if l.isEmpty then none else some l

/-- The choice of a switch that can only be turned on. -/
def on? (b : Bool) : Option Bool := if b then some true else none

/-- What a file gives. Switches and all about the output are as it says or by default. -/
def ofFile (s : Settings) : Layer where
  threads := s.validation.threads
  failFast := some s.validation.failFast
  format := some s.output.format
  verbose := some s.output.verbose
  quiet := some s.output.quiet
  extensions := nonempty? s.files.extensions
  includePatterns := nonempty? s.files.includePatterns
  excludePatterns := nonempty? s.files.excludePatterns
  maxDepth := s.files.maxDepth
  followLinks := some s.files.followLinks

/-- What a file gives if there is one. -/
def ofFile? (file : Option Settings) : Layer := file.elim {} ofFile

/-- What a variable gives if it is set. -/
def given {α : Type} (env : Environment) (name : String) (read : String → Option α) : Option α :=
  (env.lookup name).bind read

/-- What the environment gives. -/
def ofEnvironment (env : Environment) : Layer where
  threads := given env "VALIDATE_JSON_THREADS" (natural? countBound)
  failFast := given env "VALIDATE_JSON_FAIL_FAST" boolean?
  verbose := given env "VALIDATE_JSON_VERBOSE" (natural? levelBound)
  quiet := given env "VALIDATE_JSON_QUIET" boolean?
  format := given env "VALIDATE_JSON_FORMAT" format?
  extensions := given env "VALIDATE_JSON_EXTENSIONS" (some ∘ Extension.split)
  maxDepth := given env "VALIDATE_JSON_MAX_DEPTH" (natural? countBound)

/-- What a command line gives. -/
def ofCommandLine (c : CommandLine) : Layer where
  threads := c.threads
  failFast := on? c.failFast
  format := c.format
  verbose := if 0 < c.verbose then some c.verbose else none
  quiet := on? c.quiet
  extensions := c.extensionList
  includePatterns := nonempty? c.includes
  excludePatterns := nonempty? c.excludes
  maxDepth := c.maxDepth
  followLinks := on? c.followLinks

end Layer

/-- The settings that layers give, the highest at the front: each setting is that of the first layer
that gives it, or else the default. -/
def ofLayers (layers : List Layer) : Settings :=
  let base : Settings := {}
  { validation := {
      threads := (layers.findSome? Layer.threads).or base.validation.threads
      failFast := (layers.findSome? Layer.failFast).getD base.validation.failFast }
    output := {
      format := (layers.findSome? Layer.format).getD base.output.format
      verbose := (layers.findSome? Layer.level).getD base.output.verbose
      quiet := (layers.findSome? Layer.hush).getD base.output.quiet }
    files := {
      extensions := (layers.findSome? Layer.extensions).getD base.files.extensions
      includePatterns := (layers.findSome? Layer.includePatterns).getD base.files.includePatterns
      excludePatterns := (layers.findSome? Layer.excludePatterns).getD base.files.excludePatterns
      maxDepth := (layers.findSome? Layer.maxDepth).or base.files.maxDepth
      followLinks := (layers.findSome? Layer.followLinks).getD base.files.followLinks } }

/-! ### One layer over settings -/

/-- Settings with a layer over them. Each setting that the layer gives replaces one. -/
def replace (s : Settings) (l : Layer) : Settings where
  validation := {
    threads := l.threads.or s.validation.threads
    failFast := l.failFast.getD s.validation.failFast }
  output := {
    format := l.format.getD s.output.format
    verbose := l.verbose.getD s.output.verbose
    quiet := l.quiet.getD s.output.quiet }
  files := {
    extensions := l.extensions.getD s.files.extensions
    includePatterns := l.includePatterns.getD s.files.includePatterns
    excludePatterns := l.excludePatterns.getD s.files.excludePatterns
    maxDepth := l.maxDepth.or s.files.maxDepth
    followLinks := l.followLinks.getD s.files.followLinks }

/-- Settings with a layer over them. To say more and to be quiet cancel each other. -/
def overlay (s : Settings) (l : Layer) : Settings :=
  s.replace { l with verbose := l.level, quiet := l.hush }

variable {s s' : Settings} {l : Layer}

theorem findSome?_cons_or {α β : Type} (f : α → Option β) (a : α) (l : List α) :
    (a :: l).findSome? f = (f a).or (l.findSome? f) := by
  rw [List.findSome?_cons]
  cases f a <;> rfl

theorem ofLayers_nil : ofLayers [] = {} := rfl

theorem ofLayers_cons (l : Layer) (ls : List Layer) :
    ofLayers (l :: ls) = (ofLayers ls).overlay l := by
  simp only [ofLayers, overlay, replace, findSome?_cons_or, Option.or_assoc, Option.getD_or]

/-! ### Sense -/

theorem unfit?_eq_none : s.unfit? = none ↔ threadsFault? s.validation.threads = none ∧
    outputFault? s.output = none ∧ extensionsFault? s.files.extensions = none := by
  simp only [unfit?, Option.or_eq_none_iff]

theorem check_eq_ok : check s = .ok () ↔ s.unfit? = none := by
  unfold check
  cases s.unfit? <;> simp

theorem outputFault?_eq_none {o : Output} :
    outputFault? o = none ↔ (0 < o.verbose → o.quiet = false) := by
  simp [outputFault?]

/-- The only reason for which an output does not make sense. -/
theorem outputFault?_of_ne_none {o : Output} (h : outputFault? o ≠ none) :
    outputFault? o = some "Cannot enable both verbose and quiet modes" := by
  unfold outputFault? at h ⊢
  split at h
  case isTrue both => exact if_pos both
  case isFalse => exact absurd rfl h

/-- Where what results makes sense, nothing had to be cancelled. -/
theorem overlay_eq_replace (h : outputFault? (s.replace l).output = none) :
    s.overlay l = s.replace l := by
  have h : 0 < l.verbose.getD s.output.verbose → l.quiet.getD s.output.quiet = false :=
    outputFault?_eq_none.1 h
  have hlevel : l.level.getD s.output.verbose = l.verbose.getD s.output.verbose := by
    unfold Layer.level
    split
    case isTrue hq =>
      -- The layer is quiet, so the verbosity that results is zero already.
      have hn := mt h (by simp [show l.quiet = some true from hq])
      simpa using (Nat.eq_zero_of_not_pos hn).symm
    case isFalse => rfl
  have hhush : l.hush.getD s.output.quiet = l.quiet.getD s.output.quiet := by
    unfold Layer.hush
    split
    case isTrue hq => rw [show l.quiet = some true from hq]
    case isFalse =>
      split
      case isTrue hv =>
        refine (h ?_).symm
        cases hn : l.verbose with
        | none => simp [Layer.Louder, hn] at hv
        | some n => simpa [Layer.Louder, hn] using hv
      case isFalse => rfl
  simp only [overlay, replace, hlevel, hhush]

theorem outputFault?_overlay (hs : outputFault? s.output = none) :
    outputFault? (s.overlay l).output = none := by
  rw [outputFault?_eq_none] at hs ⊢
  change 0 < l.level.getD s.output.verbose → l.hush.getD s.output.quiet = false
  unfold Layer.level Layer.hush
  by_cases hq : l.Hushed
  · simp [hq]
  by_cases hv : l.Louder
  · simp [hq, hv]
  simp only [if_neg hq, if_neg hv]
  intro hpos
  have hverbose : l.verbose = none := by
    cases h : l.verbose with
    | none => rfl
    | some n => exact absurd (by simpa [Layer.Louder, h] using hpos) hv
  have hquiet : s.output.quiet = false := hs (by simpa [hverbose] using hpos)
  cases h : l.quiet with
  | none => exact hquiet
  | some b => exact Bool.eq_false_iff.2 fun hb => hq (h.trans (congrArg some hb))

/-- A layer that makes sense alone does so over settings that do. -/
theorem unfit?_overlay (hs : s.unfit? = none) (hl : (overlay {} l).unfit? = none) :
    (s.overlay l).unfit? = none := by
  obtain ⟨hst, hso, hse⟩ := unfit?_eq_none.1 hs
  obtain ⟨hlt, -, hle⟩ := unfit?_eq_none.1 hl
  refine unfit?_eq_none.2 ⟨?_, outputFault?_overlay hso, ?_⟩
  · change threadsFault? (l.threads.or s.validation.threads) = none
    cases h : l.threads with
    | none => exact hst
    | some n => rwa [show (overlay {} l).validation.threads = some n by
        simp [overlay, replace, h]] at hlt
  · change extensionsFault? (l.extensions.getD s.files.extensions) = none
    cases h : l.extensions with
    | none => exact hse
    | some es => rwa [show (overlay {} l).files.extensions = es by
        simp [overlay, replace, h]] at hle

/-! ### The layers of a run -/

theorem preferList_eq {α : Type} (base layer : List α) :
    preferList base layer = (Layer.nonempty? layer).getD base := by
  unfold preferList Layer.nonempty?
  split <;> rfl

theorem or_eq_getD_on? (b b' : Bool) : (b || b') = (Layer.on? b).getD b' := by
  cases b <;> rfl

theorem merge_eq_replace (base file : Settings) : base.merge file = base.replace (.ofFile file) := by
  simp only [merge, replace, Layer.ofFile, preferList_eq, Option.getD_some]

theorem louder_ofCommandLine {c : CommandLine} : (Layer.ofCommandLine c).Louder ↔ 0 < c.verbose := by
  by_cases h : 0 < c.verbose <;> simp [Layer.Louder, Layer.ofCommandLine, h]

theorem hushed_ofCommandLine {c : CommandLine} : (Layer.ofCommandLine c).Hushed ↔ c.quiet := by
  cases h : c.quiet <;> simp [Layer.Hushed, Layer.ofCommandLine, Layer.on?, h]

theorem output_withCommandLine (o : Output) (c : CommandLine) : o.withCommandLine c =
    { format := c.format.getD o.format
      verbose := (Layer.ofCommandLine c).level.getD o.verbose
      quiet := (Layer.ofCommandLine c).hush.getD o.quiet } := by
  unfold Output.withCommandLine Layer.level Layer.hush
  simp only [louder_ofCommandLine, hushed_ofCommandLine]
  by_cases hq : c.quiet
  · simp only [if_pos hq]
    split <;> rfl
  · by_cases hv : 0 < c.verbose
    · simp [hq, hv, Layer.ofCommandLine]
    · simp [hq, hv, Layer.ofCommandLine, Layer.on?]

theorem withCommandLine_eq_overlay (s : Settings) (c : CommandLine) :
    s.withCommandLine c = s.overlay (.ofCommandLine c) := by
  simp only [withCommandLine, output_withCommandLine, preferList_eq, or_eq_getD_on?]
  rfl

/-- A variable, if it is set, has a value of its kind. -/
def Reads {α : Type} (env : Environment) (name : String) (read : String → Option α) : Prop :=
  ∀ value, env.lookup name = some value → (read value).isSome

open Layer (given)

/-- A change by a variable that puts a layer over settings. -/
theorem override_eq_ok {α : Type} {env : Environment} {name : String} {read : String → Option α}
    (change : Settings → α → Settings) (layer : Option α → Layer)
    (hnone : ∀ s, s = replace s (layer none))
    (hsome : ∀ s x, change s x = replace s (layer (some x))) :
    override env name read change s = .ok s' ↔
      Reads env name read ∧ s' = s.replace (layer (given env name read)) := by
  unfold override Reads given
  cases env.lookup name with
  | none => simpa [← hnone] using eq_comm
  | some value =>
    cases hr : read value with
    | none => simp [hr]
    | some x => simpa [hr, hsome] using eq_comm

theorem withEnvironment_eq_ok {env : Environment} : withEnvironment env s = .ok s' ↔
    (Reads env "VALIDATE_JSON_THREADS" (natural? countBound) ∧
      Reads env "VALIDATE_JSON_FAIL_FAST" boolean? ∧
      Reads env "VALIDATE_JSON_VERBOSE" (natural? levelBound) ∧
      Reads env "VALIDATE_JSON_QUIET" boolean? ∧ Reads env "VALIDATE_JSON_FORMAT" format? ∧
      Reads env "VALIDATE_JSON_EXTENSIONS" (some ∘ Extension.split) ∧
      Reads env "VALIDATE_JSON_MAX_DEPTH" (natural? countBound)) ∧
    s' = s.replace (.ofEnvironment env) := by
  -- Each variable puts a layer of one setting over the others, and these make up that of them all.
  simp only [withEnvironment, bind_eq_ok, and_assoc, exists_and_left, exists_eq_left,
    override_eq_ok (fun s n => { s with validation.threads := some n })
      (fun n => { threads := n }) (fun _ => rfl) (fun _ _ => rfl),
    override_eq_ok (fun s b => { s with validation.failFast := b })
      (fun b => { failFast := b }) (fun _ => rfl) (fun _ _ => rfl),
    override_eq_ok (fun s n => { s with output.verbose := n })
      (fun n => { verbose := n }) (fun _ => rfl) (fun _ _ => rfl),
    override_eq_ok (fun s b => { s with output.quiet := b })
      (fun b => { quiet := b }) (fun _ => rfl) (fun _ _ => rfl),
    override_eq_ok (fun s f => { s with output.format := f })
      (fun f => { format := f }) (fun _ => rfl) (fun _ _ => rfl),
    override_eq_ok (fun s es => { s with files.extensions := es })
      (fun es => { extensions := es }) (fun _ => rfl) (fun _ _ => rfl),
    override_eq_ok (fun s n => { s with files.maxDepth := some n })
      (fun n => { maxDepth := n }) (fun _ => rfl) (fun _ _ => rfl)]
  exact Iff.rfl

/-! ### Clashes -/

namespace Layer

/-- A layer asks for more output than usual and another one for less, and each is silent on what the
other asks for. -/
def Opposes (l file : Layer) : Prop :=
  (l.Louder ∧ l.quiet = none ∧ file.Hushed) ∨ (l.Hushed ∧ l.verbose = none ∧ file.Louder)

/-- A layer says nothing about how much output there is. -/
def Silent (l : Layer) : Prop := l.verbose = none ∧ l.quiet = none

/-- The environment and a file oppose each other, and the command line does not settle it. -/
def Clash (line env file : Layer) : Prop := line.Silent ∧ env.Opposes file

theorem exists_of_not_silent {c : CommandLine} (h : ¬(ofCommandLine c).Silent) :
    ∃ n b, (ofCommandLine c).level = some n ∧ (ofCommandLine c).hush = some b := by
  by_cases hq : c.quiet
  · have hhushed := hushed_ofCommandLine.2 hq
    exact ⟨0, true, if_pos hhushed, if_pos hhushed⟩
  by_cases hv : 0 < c.verbose
  · have hhushed := mt hushed_ofCommandLine.1 hq
    refine ⟨c.verbose, false, (if_neg hhushed).trans (if_pos hv), ?_⟩
    exact (if_neg hhushed).trans (if_pos (louder_ofCommandLine.2 hv))
  · exact absurd ⟨if_neg hv, if_neg hq⟩ h

end Layer

/-- A layer that replaces settings of a layer below, where each makes sense alone, leads to nonsense
just if they oppose each other. -/
theorem outputFault?_replace {file : Layer} (hfile : (replace {} file).unfit? = none)
    (hl : (replace {} l).unfit? = none) :
    outputFault? ((replace {} file).replace l).output ≠ none ↔ l.Opposes file := by
  have hfile : 0 < file.verbose.getD 0 → file.quiet.getD false = false :=
    outputFault?_eq_none.1 (unfit?_eq_none.1 hfile).2.1
  have hl : 0 < l.verbose.getD 0 → l.quiet.getD false = false :=
    outputFault?_eq_none.1 (unfit?_eq_none.1 hl).2.1
  rw [Ne, outputFault?_eq_none]
  change ¬(0 < l.verbose.getD (file.verbose.getD 0) →
    l.quiet.getD (file.quiet.getD false) = false) ↔ _
  unfold Layer.Opposes Layer.Louder Layer.Hushed
  cases hv : l.verbose with
  | none =>
    cases hq : l.quiet with
    | none => simpa using hfile
    | some b => simp [and_comm]
  | some n =>
    cases hq : l.quiet with
    | none => cases file.quiet <;> simp
    | some b => simpa [hv, hq] using hl

/-- A command line that settles how much output there is does so whether or not the layers below
cancel each other. -/
theorem replace_overlay {env : Layer} {c : CommandLine} (h : ¬(Layer.ofCommandLine c).Silent) :
    (s.replace env).overlay (.ofCommandLine c) = (s.overlay env).overlay (.ofCommandLine c) := by
  obtain ⟨n, b, hlevel, hhush⟩ := Layer.exists_of_not_silent h
  simp only [overlay, replace, hlevel, hhush, Option.getD_some]

theorem outputFault?_overlay_silent (h : l.Silent) :
    outputFault? (s.overlay l).output = outputFault? s.output := by
  simp [outputFault?, overlay, replace, Layer.level, Layer.hush, Layer.Louder, Layer.Hushed, h.1, h.2]

section
variable {file env : Layer} {c : CommandLine} (hfile : (replace {} file).unfit? = none)
  (henv : (replace {} env).unfit? = none) (hc : (overlay {} (.ofCommandLine c)).unfit? = none)
include hfile

theorem ofLayers_eq : ofLayers [.ofCommandLine c, env, file] =
    ((replace {} file).overlay env).overlay (.ofCommandLine c) := by
  rw [ofLayers_cons, ofLayers_cons, ofLayers_cons, ofLayers_nil,
    overlay_eq_replace (unfit?_eq_none.1 hfile).2.1]

include henv

include hc in
theorem unfit?_ofLayers : (ofLayers [.ofCommandLine c, env, file]).unfit? = none := by
  rw [ofLayers_eq hfile]
  rw [← overlay_eq_replace (unfit?_eq_none.1 henv).2.1] at henv
  exact unfit?_overlay (unfit?_overlay hfile henv) hc

/-- Without a clash, what the environment says may as well cancel what the file says. -/
theorem replace_eq_ofLayers (h : ¬Layer.Clash (.ofCommandLine c) env file) :
    ((replace {} file).replace env).overlay (.ofCommandLine c) =
      ofLayers [.ofCommandLine c, env, file] := by
  rw [ofLayers_eq hfile]
  by_cases hsilent : (Layer.ofCommandLine c).Silent
  · have hopposes := not_and.1 h hsilent
    rw [← outputFault?_replace hfile henv, not_not] at hopposes
    rw [overlay_eq_replace hopposes]
  · exact replace_overlay hsilent

include hc in
theorem unfit?_of_clash (h : Layer.Clash (.ofCommandLine c) env file) :
    (((replace {} file).replace env).overlay (.ofCommandLine c)).unfit? =
      some "Cannot enable both verbose and quiet modes" := by
  obtain ⟨hsilent, hopposes⟩ := h
  rw [← outputFault?_replace hfile henv] at hopposes
  have hthreads : threadsFault? (((replace {} file).replace env).overlay
      (.ofCommandLine c)).validation.threads = none := by
    have := (unfit?_eq_none.1 (unfit?_ofLayers hfile henv hc)).1
    rwa [ofLayers_eq hfile] at this
  rw [unfit?, hthreads, outputFault?_overlay_silent hsilent, outputFault?_of_ne_none hopposes]
  rfl

end

/-! ### Settings for a run -/

/-- The settings of the file that a command line names or that is found, if there is one. -/
def configuration (t : FileTree) (env : Environment) (c : CommandLine) :
    Except Fault (Option Settings) :=
  match c.config with
  | some path => do pure (some (← load t path))
  | none => find t env

theorem forRun_eq (t : FileTree) (env : Environment) (c : CommandLine) :
    forRun t env c = configuration t env c >>= fun file => layered file env c := by
  unfold forRun configuration
  cases c.config with
  | none => rfl
  | some path => simp only [bind_assoc, pure_bind]

theorem elim_merge (file : Option Settings) :
    file.elim {} (merge {}) = ({} : Settings).replace (.ofFile? file) := by
  cases file with
  | none => rfl
  | some f => exact merge_eq_replace {} f

theorem layered_eq {file : Option Settings} {env : Environment} {c : CommandLine}
    (henv : withEnvironment env {} = .ok s) :
    layered file env c = (do
      let s := ((({} : Settings).replace (.ofFile? file)).replace (.ofEnvironment env)).overlay
        (.ofCommandLine c)
      s.check
      .ok s) := by
  have hreads := (withEnvironment_eq_ok.1 henv).1
  simp only [layered, elim_merge, withEnvironment_eq_ok.2 ⟨hreads, rfl⟩, withCommandLine_eq_overlay]
  rfl

/-- A run has the settings that the command line, the environment and the file give, each above the
next, if each of the three makes sense alone; but not if the environment and the file oppose each
other in how much output they ask for, and the command line is silent on it. -/
theorem forRun_layers {t : FileTree} {env : Environment} {c : CommandLine} {file : Option Settings}
    (hload : configuration t env c = .ok file)
    (hfile : check (file.elim {} (merge {})) = .ok ())
    (henv : withEnvironment env {} = .ok s) (hs : check s = .ok ())
    (hc : check (withCommandLine {} c) = .ok ()) :
    (¬Layer.Clash (.ofCommandLine c) (.ofEnvironment env) (.ofFile? file) →
      ∃ r, forRun t env c = .ok r ∧ check r = .ok () ∧
        r = ofLayers [.ofCommandLine c, .ofEnvironment env, .ofFile? file]) ∧
    (Layer.Clash (.ofCommandLine c) (.ofEnvironment env) (.ofFile? file) →
      forRun t env c = .error (.unfit "Cannot enable both verbose and quiet modes")) := by
  obtain ⟨-, rfl⟩ := withEnvironment_eq_ok.1 henv
  rw [check_eq_ok] at hfile hs hc
  rw [withCommandLine_eq_overlay] at hc
  rw [elim_merge] at hfile
  rw [forRun_eq, hload]
  change (_ → ∃ r, layered file env c = _ ∧ _) ∧ (_ → layered file env c = _)
  rw [layered_eq henv]
  constructor
  · intro hclash
    have hr := unfit?_ofLayers hfile hs hc
    rw [replace_eq_ofLayers hfile hs hclash]
    refine ⟨_, ?_, check_eq_ok.2 hr, rfl⟩
    simp only [check_eq_ok.2 hr]
    rfl
  · intro hclash
    simp only [check, unfit?_of_clash hfile hs hc hclash]
    rfl

/-! ### More and less output -/

def quietText : String := "\x7b\"output\":\x7b\"quiet\":true\x7d\x7d"

/-- A configuration file that asks for less output. -/
def quietFile : FileTree := ⟨[(["c.json"], .file (Utf8.bytes quietText))], []⟩

def quietly : Settings := { output.quiet := true }

/-- A variable that asks for more output. -/
def louder : Environment := [("VALIDATE_JSON_VERBOSE", "1")]

/-- A command line that names the file and says nothing else about settings. -/
def silentLine : CommandLine where
  schema := ⟨"s"⟩
  paths := [⟨"d"⟩]
  config := some ⟨"c.json"⟩
  extensions := none
  threads := none
  verbose := 0
  quiet := false
  format := none
  includes := []
  excludes := []
  maxDepth := none
  followLinks := false
  failFast := false

/-- A command line that names the file and asks for less output too. -/
def quietLine : CommandLine := { silentLine with quiet := true }

theorem ofJson_quietText : ofJson quietText = .ok quietly := by
  have read : Json.tokens quietText.toList = some [.openTable, .scalar (.text "output"), .colon,
      .openTable, .scalar (.text "quiet"), .colon, .scalar (.boolean true), .closeTable,
      .closeTable] := by rfl
  have content : Json.content? quietText =
      some (.table [(some "output", .table [(some "quiet", .boolean true)])]) := by
    rw [Json.content?, read]
    rfl
  have settings : ofText? .json quietText = some quietly := by
    simp only [ofText?, content]
    decide
  rw [ofJson, settings]

theorem configuration_quietFile {env : Environment} {c : CommandLine}
    (h : c.config = some ⟨"c.json"⟩) : configuration quietFile env c = .ok (some quietly) := by
  have resolved : quietFile.resolve ⟨"c.json"⟩ = .ok ["c.json"] := by cbv
  have read : quietFile.readText ⟨"c.json"⟩ = .ok quietText := by
    have bytes : quietFile.read ⟨"c.json"⟩ = .ok (Utf8.encode quietText.toList) := by
      rw [FileTree.read, FileTree.stat, resolved]
      rfl
    simp only [FileTree.readText, bytes, bind, Except.bind, Utf8.decode_eq_ok_iff.2 rfl,
      String.ofList_toList]
  have extension : Path.extension? ⟨"c.json"⟩ = some "json" := by decide
  simp only [configuration, h, load, read, extension, ofFile, ofJson_quietText]
  rfl

theorem natural?_one : natural? levelBound "1" = some 1 := by decide

theorem lookup_louder (name : String) :
    louder.lookup name = if name = "VALIDATE_JSON_VERBOSE" then some "1" else none := by
  by_cases h : name = "VALIDATE_JSON_VERBOSE"
  · rw [if_pos h, h]
    rfl
  · rw [if_neg h, louder, List.lookup_cons, beq_false_of_ne h]
    rfl

theorem withEnvironment_louder (s : Settings) :
    withEnvironment louder s = .ok { s with output.verbose := 1 } := by
  simp [withEnvironment, override, lookup_louder, natural?_one, bind, Except.bind]

/-- Each alone makes sense. -/
theorem check_alone : check (merge {} quietly) = .ok () ∧ check { output.verbose := 1 } = .ok () ∧
    check (withCommandLine {} silentLine) = .ok () ∧
    check (withCommandLine {} quietLine) = .ok () := by
  refine ⟨?_, ?_, ?_, ?_⟩ <;> exact check_eq_ok.2 (by decide)

/-- The command line cancels what the environment asks for. -/
theorem forRun_quietLine : configuration quietFile louder quietLine = .ok (some quietly) ∧
    check (merge {} quietly) = .ok () ∧
    withEnvironment louder {} = .ok { output.verbose := 1 } ∧
    check { output.verbose := 1 } = .ok () ∧ check (withCommandLine {} quietLine) = .ok () ∧
    forRun quietFile louder quietLine = .ok quietly := by
  have hload : configuration quietFile louder quietLine = .ok (some quietly) :=
    configuration_quietFile rfl
  obtain ⟨hfile, henv, -, hc⟩ := check_alone
  have speaks : ¬(Layer.ofCommandLine quietLine).Silent := fun h => absurd h.2 (by decide)
  have given : Layer.ofEnvironment louder = { verbose := some 1 } := by
    simp [Layer.ofEnvironment, Layer.given, lookup_louder, natural?_one]
  obtain ⟨r, hr, -, rfl⟩ := (forRun_layers hload hfile (withEnvironment_louder {}) henv hc).1
    fun clash => speaks clash.1
  refine ⟨hload, hfile, withEnvironment_louder {}, henv, hc, ?_⟩
  rw [hr, given]
  exact congrArg Except.ok (by decide)

/-- A file that asks for less output, a variable that asks for more and a command line that is silent
on it, each of which makes sense alone, do not lead to a run. -/
theorem forRun_silentLine : CommandLine.parse ["-c", "c.json", "s", "d"] = .ok silentLine ∧
    configuration quietFile louder silentLine = .ok (some quietly) ∧
    check (merge {} quietly) = .ok () ∧
    withEnvironment louder {} = .ok { output.verbose := 1 } ∧
    check { output.verbose := 1 } = .ok () ∧ check (withCommandLine {} silentLine) = .ok () ∧
    forRun quietFile louder silentLine =
      .error (.unfit "Cannot enable both verbose and quiet modes") := by
  obtain ⟨hfile, henv, hc, -⟩ := check_alone
  have hload : configuration quietFile louder silentLine = .ok (some quietly) :=
    configuration_quietFile rfl
  refine ⟨rfl, hload, hfile, withEnvironment_louder {}, henv, hc, ?_⟩
  rw [forRun_eq, hload]
  change layered (some quietly) louder silentLine = _
  simp only [layered, withEnvironment_louder]
  rfl

end JsonSchema.Settings
