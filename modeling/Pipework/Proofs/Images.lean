import Mathlib.Data.List.Basic
import Pipework.Host.Factory

/-!
# The image that is kept

A factory is asked for hosts and to drop the image that it keeps. What each call can come to is said
once (`ServeCases`); here the calls come one after the other (`SerialAnswers`).

* `SerialAnswers.counted`, `SerialAnswers.fetched_eq` — what is counted are the fetches that were
  made, and they are those of the source in order.
* `SerialAnswers.sharedImage` — between two resets at most one fetch succeeds, and all concurrent
  hosts have the image that it gave.
* `SerialAnswers.fetches_next` — what needs an image when none is kept fetches one.
-/

namespace Pipework

/-- Callbacks run inline. -/
theorem Host.kindFor_callback {P : Type} {e : Executable P} (hcallback : e.isCallback = true)
    (sharedMemory : Bool) : Host.kindFor e sharedMemory = .inline := by
  cases e with
  | program p size => cases hcallback
  | callback c => rfl

/-- Where no memory is shared every stage runs inline. -/
theorem Host.kindFor_unshared {P : Type} (e : Executable P) : Host.kindFor e false = .inline := by
  cases e <;> rfl

variable {P : Type} [Program P]

/-- What a concurrent host runs on. -/
def Host.image? (h : Host P) : Option Image :=
  match h.supply with
  | .given _ => none
  | .channel _ image => some image

namespace Factory

/-! ## Calls one after the other -/

/-- A host for a stage is asked for, or that the kept image be dropped. -/
inductive Call (P : Type) where
  | spawn (console : Console) (index : Nat) (stage : Stage P) (files : Snapshot)
  | reset

/-- A host is asked for that needs an image. -/
def Call.needsImage (sharedMemory : Bool) : Call P → Bool
  | .spawn _ _ stage _ => Host.kindFor stage.executable sharedMemory = .concurrent
  | .reset => false

/-- A host is asked for that runs its stage inline. -/
def Call.isInline (sharedMemory : Bool) : Call P → Bool
  | .spawn _ _ stage _ => Host.kindFor stage.executable sharedMemory = .inline
  | .reset => false

def Call.isReset : Call P → Bool
  | .spawn .. => false
  | .reset => true

/-- What a call has come to: what it showed, what the fetch has given if one was made for it, and
its host or the reason why there is none. -/
structure Answer (P : Type) [Program P] where
  call : Call P
  effects : List Effect
  fetched : Option (Except Fault Image)
  host : Option (Except Failure (Host P))

/-- The image of the concurrent host that was made. -/
def Answer.image? (a : Answer P) : Option Image :=
  match a.host with
  | some (.ok h) => h.image?
  | _ => none

/-- The image that was fetched. -/
def Answer.fetchedImage? (a : Answer P) : Option Image :=
  match a.fetched with
  | some (.ok image) => some image
  | _ => none

/-- The fetch that a call makes. -/
def fetchFor (f : Factory) (c : Call P) : Option (Except Fault Image) :=
  if c.needsImage f.sharedMemory && f.image.isNone then f.source.map (·.fetch f.attempts) else none

/-- Answers a call that is the only one. -/
def serve (f : Factory) (c : Call P) : Factory × Answer P :=
  match c with
  | .reset => (f.resetCache, ⟨c, [], none, none⟩)
  | .spawn console index stage files =>
    let (effects, after, host) := f.spawn console index stage files
    (after, ⟨c, effects, f.fetchFor c, some host⟩)

/-- Why there is no host when a fetch has failed. -/
def unfetched (source : Source) (why : Fault) : Failure :=
  .noHost ("fetching " ++ source.description ++ " failed: " ++ why.full)

def sourceless : Failure := .noHost "no execution context source configured"

/-- What a fetch shows. -/
def shown (console : Console) : List Effect := console.status preparing ++ console.clearStatus

theorem shown_eq (console : Console) : shown console =
    if console.statuses then [.status preparing, .clearStatus] else [] := by
  unfold shown Console.status Console.clearStatus
  split <;> rfl

/-- The factory has begun a fetch. -/
def attempt (f : Factory) : Factory := { f with attempts := f.attempts + 1 }

/-- The factory keeps an image that was fetched. -/
def keep (f : Factory) (image : Image) : Factory :=
  { f with image := some image, fetches := f.fetches + 1 }

/-- All that a call can come to. -/
inductive ServeCases (f : Factory) : Factory → Answer P → Prop where
  | reset : ServeCases f f.resetCache ⟨.reset, [], none, none⟩
  | inline {console : Console} {index : Nat} {stage : Stage P} {files : Snapshot}
      (hkind : Host.kindFor stage.executable f.sharedMemory = .inline) :
      ServeCases f f
        ⟨.spawn console index stage files, [], none, some (.ok (.inline index stage files))⟩
  | reused {console : Console} {index : Nat} {stage : Stage P} {files : Snapshot} {image : Image}
      (hkind : Host.kindFor stage.executable f.sharedMemory = .concurrent)
      (himage : f.image = some image) :
      ServeCases f f ⟨.spawn console index stage files, [], none,
        some (.ok (.concurrent index stage files f.capacity image))⟩
  | unsourced {console : Console} {index : Nat} {stage : Stage P} {files : Snapshot}
      (hkind : Host.kindFor stage.executable f.sharedMemory = .concurrent)
      (himage : f.image = none) (hsource : f.source = none) :
      ServeCases f f ⟨.spawn console index stage files, [], none, some (.error sourceless)⟩
  | fetched {console : Console} {index : Nat} {stage : Stage P} {files : Snapshot} {source : Source}
      {image : Image} (hkind : Host.kindFor stage.executable f.sharedMemory = .concurrent)
      (himage : f.image = none) (hsource : f.source = some source)
      (hfetch : source.fetch f.attempts = .ok image) :
      ServeCases f (f.attempt.keep image) ⟨.spawn console index stage files, shown console,
        some (.ok image), some (.ok (.concurrent index stage files f.capacity image))⟩
  | failed {console : Console} {index : Nat} {stage : Stage P} {files : Snapshot} {source : Source}
      {why : Fault} (hkind : Host.kindFor stage.executable f.sharedMemory = .concurrent)
      (himage : f.image = none) (hsource : f.source = some source)
      (hfetch : source.fetch f.attempts = .error why) :
      ServeCases f f.attempt ⟨.spawn console index stage files, shown console, some (.error why),
        some (.error (unfetched source why))⟩

section Equations

variable {f : Factory} {console : Console} {index : Nat} {stage : Stage P} {files : Snapshot}
  {source : Source} {image : Image} {why : Fault}

theorem serve_inline (hkind : Host.kindFor stage.executable f.sharedMemory = .inline) :
    f.serve (.spawn console index stage files) = (f, ⟨.spawn console index stage files, [], none,
      some (.ok (.inline index stage files))⟩) := by
  simp [serve, spawn, fetchFor, Call.needsImage, hkind]

theorem serve_reused (hkind : Host.kindFor stage.executable f.sharedMemory = .concurrent)
    (himage : f.image = some image) :
    f.serve (.spawn console index stage files) = (f, ⟨.spawn console index stage files, [], none,
      some (.ok (.concurrent index stage files f.capacity image))⟩) := by
  simp [serve, spawn, provide, fetchFor, hkind, himage]

theorem serve_unsourced (hkind : Host.kindFor stage.executable f.sharedMemory = .concurrent)
    (himage : f.image = none) (hsource : f.source = none) :
    f.serve (.spawn console index stage files) =
      (f, ⟨.spawn console index stage files, [], none, some (.error sourceless)⟩) := by
  simp [serve, spawn, provide, fetchFor, hkind, himage, hsource, sourceless]

theorem serve_fetched (hkind : Host.kindFor stage.executable f.sharedMemory = .concurrent)
    (himage : f.image = none) (hsource : f.source = some source)
    (hfetch : source.fetch f.attempts = .ok image) :
    f.serve (.spawn console index stage files) =
      (f.attempt.keep image, ⟨.spawn console index stage files, shown console, some (.ok image),
        some (.ok (.concurrent index stage files f.capacity image))⟩) := by
  simp [serve, spawn, provide, fetchFor, Call.needsImage, attempt, keep, shown, hkind, himage,
    hsource, hfetch]

theorem serve_failed (hkind : Host.kindFor stage.executable f.sharedMemory = .concurrent)
    (himage : f.image = none) (hsource : f.source = some source)
    (hfetch : source.fetch f.attempts = .error why) :
    f.serve (.spawn console index stage files) =
      (f.attempt, ⟨.spawn console index stage files, shown console, some (.error why),
        some (.error (unfetched source why))⟩) := by
  simp [serve, spawn, provide, fetchFor, Call.needsImage, attempt, unfetched, shown, hkind, himage,
    hsource, hfetch]

end Equations

theorem serve_cases (f : Factory) (c : Call P) : ServeCases f (f.serve c).1 (f.serve c).2 := by
  cases c with
  | reset => exact .reset
  | spawn console index stage files =>
    cases hkind : Host.kindFor stage.executable f.sharedMemory with
    | inline =>
      rw [serve_inline hkind]
      exact .inline hkind
    | concurrent =>
      cases himage : f.image with
      | some image =>
        rw [serve_reused hkind himage]
        exact .reused hkind himage
      | none =>
        cases hsource : f.source with
        | none =>
          rw [serve_unsourced hkind himage hsource]
          exact .unsourced hkind himage hsource
        | some source =>
          cases hfetch : source.fetch f.attempts with
          | ok image =>
            rw [serve_fetched hkind himage hsource hfetch]
            exact .fetched hkind himage hsource hfetch
          | error why =>
            rw [serve_failed hkind himage hsource hfetch]
            exact .failed hkind himage hsource hfetch

theorem serve_call (f : Factory) (c : Call P) : (f.serve c).2.call = c := by
  cases c <;> rfl

/-- The answers that calls get one after the other. -/
inductive SerialAnswers : Factory → List (Answer P) → Factory → Prop where
  | nil {f : Factory} : SerialAnswers f [] f
  | cons {f g h : Factory} {a : Answer P} {as : List (Answer P)} (hserve : f.serve a.call = (g, a))
      (hrest : SerialAnswers g as h) : SerialAnswers f (a :: as) h

variable {f g h : Factory} {a : Answer P} {as bs : List (Answer P)}

theorem serveCases_of_serve (hserve : f.serve a.call = (g, a)) : ServeCases f g a := by
  have hserving := serve_cases f a.call
  rw [hserve] at hserving
  exact hserving

namespace SerialAnswers

theorem append (hfirst : SerialAnswers f as g) (hrest : SerialAnswers g bs h) :
    SerialAnswers f (as ++ bs) h := by
  induction hfirst with
  | nil => exact hrest
  | cons hserve _ ih => exact .cons hserve (ih hrest)

theorem split (hall : SerialAnswers f (as ++ bs) h) : ∃ g, SerialAnswers f as g ∧
    SerialAnswers g bs h := by
  induction as generalizing f with
  | nil => exact ⟨f, .nil, hall⟩
  | cons a as ih =>
    obtain _ | ⟨hserve, hrest⟩ := hall
    obtain ⟨g, hfirst, hlast⟩ := ih hrest
    exact ⟨g, .cons hserve hfirst, hlast⟩

theorem concat (hfirst : SerialAnswers f as g) (c : Call P) :
    SerialAnswers f (as ++ [(g.serve c).2]) (g.serve c).1 := by
  refine hfirst.append (.cons ?_ .nil)
  rw [serve_call]

/-- What every call keeps is kept by any number of them. -/
theorem invariant {Q : Factory → Prop}
    (hserving : ∀ {f g : Factory} {a : Answer P}, ServeCases f g a → Q f → Q g)
    (hall : SerialAnswers f as g) (hf : Q f) : Q g := by
  induction hall with
  | nil => exact hf
  | cons hserve _ ih => exact ih (hserving (serveCases_of_serve hserve) hf)

end SerialAnswers

/-- Both factories are set up alike. -/
structure SameSetup (f g : Factory) : Prop where
  source : g.source = f.source
  sharedMemory : g.sharedMemory = f.sharedMemory

theorem ServeCases.sameSetup (hserving : ServeCases f g a) : SameSetup f g := by
  cases hserving <;> exact ⟨rfl, rfl⟩

theorem SerialAnswers.sameSetup (hall : SerialAnswers f as g) : SameSetup f g :=
  hall.invariant (Q := SameSetup f)
    (fun hserving hf => ⟨hserving.sameSetup.source.trans hf.source,
      hserving.sameSetup.sharedMemory.trans hf.sharedMemory⟩) ⟨rfl, rfl⟩

/-- Each answer was given by a factory that is set up alike. -/
theorem SerialAnswers.serveCases_of_mem (hall : SerialAnswers f as g) (hmem : a ∈ as) :
    ∃ before after, SameSetup f before ∧ ServeCases before after a := by
  obtain ⟨front, back, rfl⟩ := List.append_of_mem hmem
  obtain ⟨before, hfront, hback⟩ := hall.split
  obtain _ | ⟨hserve, -⟩ := hback
  exact ⟨before, _, hfront.sameSetup, serveCases_of_serve hserve⟩

/-! ## Single calls -/

/-- Callbacks, and all stages where no memory is shared, need no image. -/
theorem ServeCases.unneeded (hserving : ServeCases f g a) {console : Console} {index : Nat}
    {stage : Stage P} {files : Snapshot} (hcall : a.call = .spawn console index stage files)
    (hneedless : stage.isCallback = true ∨ f.sharedMemory = false) :
    a.fetched = none ∧ a.effects = [] ∧ a.host = some (.ok (.inline index stage files)) := by
  have hinline : Host.kindFor stage.executable f.sharedMemory = .inline := by
    rcases hneedless with hcallback | hapart
    · exact Host.kindFor_callback hcallback _
    · rw [hapart]
      exact Host.kindFor_unshared _
  cases hserving with
  | reset => cases hcall
  | inline hkind =>
    cases hcall
    exact ⟨rfl, rfl, rfl⟩
  | reused hkind | unsourced hkind | fetched hkind | failed hkind =>
    cases hcall
    cases hinline.symm.trans hkind

/-- Who asks for a host is given one, unless its own fetch fails or there is no source. -/
theorem ServeCases.hosted (hserving : ServeCases f g a) (hspawn : a.call.isReset = false) :
    (∃ host, a.host = some (.ok host)) ∨
      (∃ source why, f.source = some source ∧ a.fetched = some (.error why) ∧
        a.host = some (.error (unfetched source why))) ∨
      f.source = none ∧ a.host = some (.error sourceless) := by
  cases hserving with
  | reset => cases hspawn
  | failed hkind himage hsource hfetch => exact Or.inr (Or.inl ⟨_, _, hsource, rfl, rfl⟩)
  | unsourced hkind himage hsource => exact Or.inr (Or.inr ⟨hsource, rfl⟩)
  | inline | reused | fetched => exact Or.inl ⟨_, rfl⟩

/-- A fetch that fails is the end of the call that made it, and leaves no image. -/
theorem ServeCases.unfetched (hserving : ServeCases f g a) {source : Source} {why : Fault}
    (hsource : f.source = some source) (hfetched : a.fetched = some (.error why)) :
    a.host = some (.error (Factory.unfetched source why)) ∧ g.image = none := by
  cases hserving with
  | failed hkind himage hother hfetch =>
    cases hsource.symm.trans hother
    cases hfetched
    exact ⟨rfl, himage⟩
  | _ => cases hfetched

/-- A fetch is announced and the announcement taken back; nothing else is shown. -/
theorem ServeCases.effects_eq (hserving : ServeCases f g a) {console : Console} {index : Nat}
    {stage : Stage P} {files : Snapshot} (hcall : a.call = .spawn console index stage files) :
    a.effects = if a.fetched.isSome && console.statuses then [.status preparing, .clearStatus]
      else [] := by
  cases hserving with
  | reset => cases hcall
  | fetched | failed =>
    cases hcall
    exact shown_eq console
  | inline | reused | unsourced => rfl

/-! ## Counting fetches -/

theorem SerialAnswers.counted (hall : SerialAnswers f as g) :
    g.attempts = f.attempts + as.countP (·.fetched.isSome) ∧
      g.fetches = f.fetches + as.countP (·.fetchedImage?.isSome) := by
  induction hall with
  | nil => exact ⟨rfl, rfl⟩
  | @cons f m g a as hserve hrest ih =>
    have hone : m.attempts = f.attempts + (if a.fetched.isSome then 1 else 0) ∧
        m.fetches = f.fetches + (if a.fetchedImage?.isSome then 1 else 0) := by
      cases serveCases_of_serve hserve <;> exact ⟨rfl, rfl⟩
    rw [List.countP_cons, List.countP_cons]
    omega

/-- The fetches that are made are those of the source, in order. -/
theorem SerialAnswers.fetched_eq {source : Source} (hsource : f.source = some source)
    (hall : SerialAnswers f as g) : as.filterMap Answer.fetched =
      (List.range' f.attempts (as.countP (·.fetched.isSome))).map source.fetch := by
  induction hall with
  | nil => rfl
  | @cons f m g a as hserve hrest ih =>
    have hserving := serveCases_of_serve hserve
    have hrest := ih (hserving.sameSetup.source.trans hsource)
    -- a call either makes the next fetch or none
    have hone : (a.fetched = none ∧ m.attempts = f.attempts) ∨
        (a.fetched = some (source.fetch f.attempts) ∧ m.attempts = f.attempts + 1) := by
      cases hserving with
      | fetched hkind himage hother hfetch =>
        cases hsource.symm.trans hother
        exact Or.inr ⟨congrArg some hfetch.symm, rfl⟩
      | failed hkind himage hother hfetch =>
        cases hsource.symm.trans hother
        exact Or.inr ⟨congrArg some hfetch.symm, rfl⟩
      | _ => exact Or.inl ⟨rfl, rfl⟩
    rcases hone with ⟨hfetched, hattempts⟩ | ⟨hfetched, hattempts⟩
    · rw [List.filterMap_cons_none hfetched, hrest, hattempts]
      simp [hfetched]
    · rw [List.filterMap_cons_some hfetched, hrest, hattempts]
      simp [hfetched, List.range'_succ]

/-! ## Between resets -/

/-- At most one fetch succeeded, and all concurrent hosts have the image that it gave. -/
def SharedImage (as : List (Answer P)) : Prop :=
  (as.filterMap Answer.fetchedImage? = [] ∧ as.filterMap Answer.image? = []) ∨
    ∃ image, as.filterMap Answer.fetchedImage? = [image] ∧
      ∀ used ∈ as.filterMap Answer.image?, used = image

/-- While an image is kept nothing is fetched. -/
theorem SerialAnswers.image_unchanged {image : Image} (hall : SerialAnswers f as g)
    (hunreset : ∀ a ∈ as, a.call.isReset = false) (himage : f.image = some image) :
    as.filterMap Answer.fetchedImage? = [] ∧ ∀ used ∈ as.filterMap Answer.image?, used = image := by
  induction hall with
  | nil => exact ⟨rfl, List.forall_mem_nil _⟩
  | @cons f m g a as hserve hrest ih =>
    obtain ⟨hfirst, hlater⟩ := List.forall_mem_cons.mp hunreset
    have hone : m.image = some image ∧ a.fetchedImage? = none ∧
        (a.image? = none ∨ a.image? = some image) := by
      cases serveCases_of_serve hserve with
      | reset => cases hfirst
      | inline hkind => exact ⟨himage, rfl, Or.inl rfl⟩
      | reused hkind hkept =>
        cases himage.symm.trans hkept
        exact ⟨himage, rfl, Or.inr rfl⟩
      | unsourced hkind hnone hsource => cases himage.symm.trans hnone
      | fetched hkind hnone hsource hfetch => cases himage.symm.trans hnone
      | failed hkind hnone hsource hfetch => cases himage.symm.trans hnone
    obtain ⟨hkept, hunfetched, hused⟩ := hone
    obtain ⟨hnone, hall⟩ := ih hlater hkept
    rw [List.filterMap_cons_none hunfetched]
    refine ⟨hnone, ?_⟩
    rcases hused with hused | hused
    · rw [List.filterMap_cons_none hused]
      exact hall
    · rw [List.filterMap_cons_some hused, List.forall_mem_cons]
      exact ⟨rfl, hall⟩

/-- **From a factory that keeps no image on, one fetch at most succeeds, and all concurrent hosts
have its image**, until the next reset. -/
theorem SerialAnswers.sharedImage (hall : SerialAnswers f as g)
    (hunreset : ∀ a ∈ as, a.call.isReset = false) (himage : f.image = none) : SharedImage as := by
  induction hall with
  | nil => exact Or.inl ⟨rfl, rfl⟩
  | @cons f m g a as hserve hrest ih =>
    obtain ⟨hfirst, hlater⟩ := List.forall_mem_cons.mp hunreset
    have hskip : m.image = none → a.fetchedImage? = none → a.image? = none →
      SharedImage (a :: as) := by
      intro hnone hunfetched hunused
      unfold SharedImage
      rw [List.filterMap_cons_none hunfetched, List.filterMap_cons_none hunused]
      exact ih hlater hnone
    cases serveCases_of_serve hserve with
    | reset => cases hfirst
    | inline hkind => exact hskip himage rfl rfl
    | reused hkind hkept => cases himage.symm.trans hkept
    | unsourced hkind hnone hsource => exact hskip himage rfl rfl
    | failed hkind hnone hsource hfetch => exact hskip himage rfl rfl
    | @fetched console index stage files source image hkind hnone hsource hfetch =>
      have himage : (f.attempt.keep image).image = some image := rfl
      obtain ⟨hunfetched, hused⟩ := hrest.image_unchanged hlater himage
      refine Or.inr ⟨image, ?_, ?_⟩
      · exact congrArg (image :: ·) hunfetched
      · exact List.forall_mem_cons.mpr ⟨rfl, hused⟩

/-- No image is kept at the beginning and right after a reset. -/
def EndsWithReset (as : List (Answer P)) : Prop := ∀ a ∈ as.getLast?, a.call.isReset = true

theorem SerialAnswers.endsWithReset (hall : SerialAnswers f as g) (hfresh : EndsWithReset as)
    (himage : f.image = none) : g.image = none := by
  rcases List.eq_nil_or_concat' as with rfl | ⟨front, last, rfl⟩
  · obtain _ | _ := hall
    exact himage
  · obtain ⟨before, -, hlast⟩ := hall.split
    obtain _ | ⟨hserve, hrest⟩ := hlast
    obtain _ | _ := hrest
    have hreset : last.call.isReset = true := hfresh last (by simp)
    cases serveCases_of_serve hserve with
    | reset => rfl
    | _ => cases hreset

/-- **What needs an image when none is kept fetches one**, whatever was asked in between. -/
theorem SerialAnswers.fetches_next {source : Source} (hsource : f.source = some source)
    (himage : f.image = none)
    (hall : SerialAnswers f as g) (hidle : ∀ a ∈ as, a.call.needsImage f.sharedMemory = false)
    (hserve : g.serve a.call = (h, a)) (hneeds : a.call.needsImage f.sharedMemory = true) :
    a.fetched.isSome = true := by
  induction hall with
  | nil =>
    cases serveCases_of_serve hserve with
    | reset => cases hneeds
    | inline hkind => simp [Call.needsImage, hkind] at hneeds
    | reused hkind hkept => cases himage.symm.trans hkept
    | unsourced hkind hnone hother => cases hsource.symm.trans hother
    | fetched hkind hnone hother hfetch => rfl
    | failed hkind hnone hother hfetch => rfl
  | @cons f m g b as hfirst hrest ih =>
    obtain ⟨hunneeded, hlater⟩ := List.forall_mem_cons.mp hidle
    have hserving := serveCases_of_serve hfirst
    have hnone : m.image = none := by
      cases hserving with
      | reset => rfl
      | inline hkind => exact himage
      | reused hkind hkept => cases himage.symm.trans hkept
      | unsourced hkind hnone hother => exact himage
      | fetched hkind hnone hother hfetch => simp [Call.needsImage, hkind] at hunneeded
      | failed hkind hnone hother hfetch => exact himage
    have hshared := hserving.sameSetup.sharedMemory
    rw [← hshared] at hlater hneeds
    exact ih (hserving.sameSetup.source.trans hsource) hnone hlater hserve hneeds

end Factory

end Pipework
