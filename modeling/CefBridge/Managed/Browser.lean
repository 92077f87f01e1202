import CefBridge.Library.Runs
import CefBridge.Patcher.Runtime

/-!
# One browser and its callbacks

A browser hands its first URL to the native side when it is constructed. From
then on its owner asks it to navigate and to show the developer tools, and the
native side reports at some later point that the browser was created, that a key
was pressed and that the browser was closed.

Requests before the browser is created are only recorded. `navigated_iff` says
for which runs the recorded URL is nevertheless the one that was handed over.
The form of the developer tools is never stored in the field that the closing
looks at; `toolsGone_iff` says which runs do not show it.
-/

namespace CefBridge.Managed

open Library Runs
open Patcher (Text)

/-- A window for the developer tools. -/
structure DevForm where
  closed : Nat := 0
  disposed : Nat := 0
  deriving DecidableEq

structure MyCefBrowser where
  currentUrl : Text
  isBrowserCreated : Bool := false
  /-- Whether the native window of the developer tools is there. -/
  cefDevWindow : Bool := false
  /-- Which of the opened forms the field names. -/
  devForm : Option Nat := none
  /-- All forms that were opened for the developer tools. -/
  devForms : List DevForm := []
  /-- The URLs that the native side was given, the last one last. -/
  handed : List Text
  /-- How often the browser told its listeners that it is gone. -/
  browserDisposed : Nat := 0
  deriving DecidableEq

/-- The constructor sets up the native browser with the first URL. -/
def MyCefBrowser.new (initUrl : Text) : MyCefBrowser where
  currentUrl := initUrl
  handed := [initUrl]

def MyCefBrowser.navigateTo (browser : MyCefBrowser) (url : Text) : MyCefBrowser :=
  let browser := { browser with currentUrl := url }
  if browser.isBrowserCreated then { browser with handed := browser.handed ++ [url] } else browser

/-- The new form is kept in a variable of the method, not in the field. -/
def MyCefBrowser.showDevTools (browser : MyCefBrowser) : MyCefBrowser :=
  if !browser.cefDevWindow then
    { browser with cefDevWindow := true, devForms := browser.devForms ++ [{}] }
  else browser

/-- Close and dispose a form. -/
def DevForm.shut (form : DevForm) : DevForm := ⟨form.closed + 1, form.disposed + 1⟩

def MyCefBrowser.notifyBrowserClosed (browser : MyCefBrowser) : MyCefBrowser :=
  let browser :=
    match browser.devForm with
    | none => browser
    | some index => { browser with devForms := browser.devForms.modify index DevForm.shut, devForm := none }
  { browser with browserDisposed := browser.browserDisposed + 1 }

def PRE_KEY_URL : Text := "https://html5test.com".toList

/-- A request of the owner or a callback. Other callbacks leave the browser as it is. -/
inductive BrowserEvent where
  | navigateTo (url : Text)
  | showDevTools
  | notifyBrowserCreated
  | notifyBrowserClosed
  | onPreKeyEvent
  | other
  deriving DecidableEq

def MyCefBrowser.handle (browser : MyCefBrowser) : BrowserEvent → MyCefBrowser
  | .navigateTo url => browser.navigateTo url
  | .showDevTools => browser.showDevTools
  | .notifyBrowserCreated => { browser with isBrowserCreated := true }
  | .notifyBrowserClosed => browser.notifyBrowserClosed
  | .onPreKeyEvent => browser.navigateTo PRE_KEY_URL
  | .other => browser

/-- A browser that was created shows the URL that was handed over last. -/
def MyCefBrowser.Navigated (browser : MyCefBrowser) : Prop :=
  browser.isBrowserCreated = true → browser.handed.getLast? = some browser.currentUrl

section Navigation

/-- The URL that an event asks for. -/
def BrowserEvent.request : BrowserEvent → Option Text
  | .navigateTo url => some url
  | .onPreKeyEvent => some PRE_KEY_URL
  | _ => none

/-- The URL that was asked for last, or else the first URL. -/
def lastRequest (initUrl : Text) (events : List BrowserEvent) : Text :=
  (events.filterMap BrowserEvent.request).getLastD initUrl

theorem lastRequest_concat (initUrl : Text) (events : List BrowserEvent) (event : BrowserEvent) :
    lastRequest initUrl (events ++ [event]) = event.request.getD (lastRequest initUrl events) := by
  rw [lastRequest, List.filterMap_append]
  cases asked : event.request with
  | none => simp [asked, lastRequest]
  | some url => simp [asked]

/-- A request is recorded, and handed over if the browser is created. -/
theorem navigateTo_eq (browser : MyCefBrowser) (url : Text) :
    browser.navigateTo url =
      { browser with
        currentUrl := url
        handed := if browser.isBrowserCreated then browser.handed ++ [url] else browser.handed } := by
  unfold MyCefBrowser.navigateTo
  by_cases created : browser.isBrowserCreated = true
  · simp [created]
  · simp [created]

/-- Showing the developer tools has nothing to do with navigation. -/
theorem showDevTools_frame (browser : MyCefBrowser) :
    browser.showDevTools.currentUrl = browser.currentUrl ∧
      browser.showDevTools.isBrowserCreated = browser.isBrowserCreated ∧
      browser.showDevTools.handed = browser.handed := by
  unfold MyCefBrowser.showDevTools
  by_cases shown : browser.cefDevWindow = true
  · simp [shown]
  · simp [shown]

theorem notifyBrowserClosed_frame (browser : MyCefBrowser) :
    browser.notifyBrowserClosed.currentUrl = browser.currentUrl ∧
      browser.notifyBrowserClosed.isBrowserCreated = browser.isBrowserCreated ∧
      browser.notifyBrowserClosed.handed = browser.handed := by
  unfold MyCefBrowser.notifyBrowserClosed
  cases browser.devForm with
  | none => exact ⟨rfl, rfl, rfl⟩
  | some index => exact ⟨rfl, rfl, rfl⟩

/-- An event records what it asks for. -/
theorem handle_currentUrl (browser : MyCefBrowser) (event : BrowserEvent) :
    (browser.handle event).currentUrl = event.request.getD browser.currentUrl := by
  cases event with
  | navigateTo url =>
    rw [MyCefBrowser.handle, navigateTo_eq]
    rfl
  | onPreKeyEvent =>
    rw [MyCefBrowser.handle, navigateTo_eq]
    rfl
  | showDevTools => exact (showDevTools_frame browser).1
  | notifyBrowserClosed => exact (notifyBrowserClosed_frame browser).1
  | notifyBrowserCreated => rfl
  | other => rfl

/-- A browser stays created. -/
theorem handle_created (browser : MyCefBrowser) (event : BrowserEvent) :
    (browser.handle event).isBrowserCreated = true ↔
      browser.isBrowserCreated = true ∨ event = .notifyBrowserCreated := by
  cases event with
  | navigateTo url => simp [MyCefBrowser.handle, navigateTo_eq]
  | onPreKeyEvent => simp [MyCefBrowser.handle, navigateTo_eq]
  | showDevTools => simp [MyCefBrowser.handle, showDevTools_frame]
  | notifyBrowserClosed => simp [MyCefBrowser.handle, notifyBrowserClosed_frame]
  | notifyBrowserCreated => simp [MyCefBrowser.handle]
  | other => simp [MyCefBrowser.handle]

/-- What is asked of a created browser is handed over. -/
theorem handle_handed (browser : MyCefBrowser) (event : BrowserEvent) :
    (browser.handle event).handed =
      if browser.isBrowserCreated then browser.handed ++ event.request.toList else browser.handed := by
  cases event with
  | navigateTo url =>
    rw [MyCefBrowser.handle, navigateTo_eq]
    rfl
  | onPreKeyEvent =>
    rw [MyCefBrowser.handle, navigateTo_eq]
    rfl
  | showDevTools => simp [MyCefBrowser.handle, showDevTools_frame, BrowserEvent.request]
  | notifyBrowserClosed => simp [MyCefBrowser.handle, notifyBrowserClosed_frame, BrowserEvent.request]
  | notifyBrowserCreated => simp [MyCefBrowser.handle, BrowserEvent.request]
  | other => simp [MyCefBrowser.handle, BrowserEvent.request]

/-- After any events, the recorded URL is the one that was asked for last. -/
theorem run_currentUrl (initUrl : Text) (events : List BrowserEvent) :
    (run MyCefBrowser.handle (.new initUrl) events).currentUrl = lastRequest initUrl events := by
  induction events using List.reverseRecOn with
  | nil => rfl
  | append_singleton events event ih => rw [run_concat, handle_currentUrl, lastRequest_concat, ih]

theorem run_created (initUrl : Text) (events : List BrowserEvent) :
    (run MyCefBrowser.handle (.new initUrl) events).isBrowserCreated = true ↔
      .notifyBrowserCreated ∈ events := by
  induction events using List.reverseRecOn with
  | nil => simp [MyCefBrowser.new]
  | append_singleton events event ih =>
    rw [run_concat, handle_created, ih, List.mem_append, List.mem_singleton]
    exact or_congr_right eq_comm

/-- A created browser shows what was handed over, and one that is not created has
been handed the first URL alone. -/
structure Recorded (initUrl : Text) (browser : MyCefBrowser) : Prop where
  navigated : browser.Navigated
  waiting : browser.isBrowserCreated = false → browser.handed = [initUrl]

/-- The browser is created while the recorded URL is the first one. -/
def CreatedAt (initUrl : Text) (browser : MyCefBrowser) (event : BrowserEvent) : Prop :=
  event = .notifyBrowserCreated → browser.isBrowserCreated = false → browser.currentUrl = initUrl

theorem handle_recorded {initUrl : Text} {browser : MyCefBrowser} {event : BrowserEvent}
    (recorded : Recorded initUrl browser) (creation : CreatedAt initUrl browser event) :
    Recorded initUrl (browser.handle event) := by
  cases created : browser.isBrowserCreated with
  | true =>
    refine ⟨fun _ => ?_, fun waiting => ?_⟩
    · have last := recorded.navigated created
      rw [handle_handed, if_pos created, handle_currentUrl]
      cases event.request with
      | none => simpa using last
      | some url => simp
    · have still := (handle_created browser event).mpr (.inl created)
      rw [waiting] at still
      cases still
  | false =>
    have handed := recorded.waiting created
    refine ⟨fun now => ?_, fun _ => ?_⟩
    · rcases (handle_created browser event).mp now with before | same
      · rw [created] at before
        cases before
      · rw [handle_handed, handed, handle_currentUrl, same]
        simp [created, BrowserEvent.request, creation same created]
    · rw [handle_handed, handed]
      simp [created]

theorem handle_unrecorded {initUrl : Text} {browser : MyCefBrowser} {event : BrowserEvent}
    (recorded : Recorded initUrl browser) (missed : ¬ CreatedAt initUrl browser event) :
    ¬ (browser.handle event).Navigated := by
  intro navigated
  apply missed
  rintro rfl created
  have last := navigated ((handle_created browser _).mpr (.inr rfl))
  rw [handle_handed, recorded.waiting created, handle_currentUrl] at last
  simpa [created, BrowserEvent.request] using last.symm

/-- In every state of a run the created browser shows the URL that was handed over
last, exactly when the last request before the creation, if there was one, was
for the first URL. -/
theorem navigated_iff (initUrl : Text) (events : List BrowserEvent) :
    EachState MyCefBrowser.handle (.new initUrl) MyCefBrowser.Navigated events ↔
      ∀ before after, events = before ++ .notifyBrowserCreated :: after →
        .notifyBrowserCreated ∉ before → lastRequest initUrl before = initUrl := by
  have start : Recorded initUrl (.new initUrl) := ⟨nofun, fun _ => rfl⟩
  have steps : EachState MyCefBrowser.handle (.new initUrl) MyCefBrowser.Navigated events ↔
      EachStep MyCefBrowser.handle (.new initUrl) (CreatedAt initUrl) events :=
    eachState_iff_eachStep start (fun _ recorded => recorded.navigated) (fun _ _ => handle_recorded)
      (fun _ _ => handle_unrecorded) events
  rw [steps]
  constructor
  · intro each before after split first
    rw [← run_currentUrl]
    apply each before .notifyBrowserCreated after split rfl
    exact Bool.eq_false_iff.mpr fun created => first ((run_created initUrl before).mp created)
  · rintro each before event after split rfl created
    rw [run_currentUrl]
    apply each before after split
    intro earlier
    rw [(run_created initUrl before).mpr earlier] at created
    cases created

/-- A request right after the construction is lost. -/
theorem navigated_lost :
    ¬ EachState MyCefBrowser.handle (.new "about:blank".toList) MyCefBrowser.Navigated
      [.navigateTo "http://localhost".toList, .notifyBrowserCreated] := by
  intro each
  have last := each.last rfl
  exact absurd last (by decide)

end Navigation

section DevTools

/-- Once the browser is closed, every form that was opened for its developer tools
is closed and disposed, and each is so once. -/
def ToolsGone (initUrl : Text) (events : List BrowserEvent) : Prop :=
  ∀ before after, events = before ++ after → .notifyBrowserClosed ∈ before →
    ∀ form ∈ (run MyCefBrowser.handle (.new initUrl) before).devForms, form.closed = 1 ∧ form.disposed = 1

/-- The forms that were opened while the field names none of them. -/
structure Unnamed (browser : MyCefBrowser) (shown : Bool) : Prop where
  field : browser.devForm = none
  window : browser.cefDevWindow = shown
  forms : browser.devForms = if shown then [{}] else []

/-- A request opens the form if there is no window for it yet. -/
theorem showDevTools_unnamed {browser : MyCefBrowser} {shown : Bool} (unnamed : Unnamed browser shown) :
    Unnamed browser.showDevTools true := by
  rw [MyCefBrowser.showDevTools, unnamed.window]
  cases shown with
  | true => exact unnamed
  | false => exact ⟨unnamed.field, rfl, by simp [unnamed.forms]⟩

/-- The closing finds no form in the field. -/
theorem notifyBrowserClosed_unnamed {browser : MyCefBrowser} {shown : Bool}
    (unnamed : Unnamed browser shown) : Unnamed browser.notifyBrowserClosed shown := by
  rw [MyCefBrowser.notifyBrowserClosed, unnamed.field]
  exact ⟨unnamed.field, unnamed.window, unnamed.forms⟩

theorem navigateTo_unnamed {browser : MyCefBrowser} {shown : Bool} (unnamed : Unnamed browser shown)
    (url : Text) : Unnamed (browser.navigateTo url) shown := by
  rw [navigateTo_eq]
  exact ⟨unnamed.field, unnamed.window, unnamed.forms⟩

theorem handle_unnamed {browser : MyCefBrowser} {shown : Bool} (unnamed : Unnamed browser shown)
    (event : BrowserEvent) : Unnamed (browser.handle event) (shown || event = .showDevTools) := by
  by_cases asked : event = .showDevTools
  · rw [decide_eq_true asked, Bool.or_true, asked]
    exact showDevTools_unnamed unnamed
  · rw [decide_eq_false asked, Bool.or_false]
    cases event with
    | showDevTools => exact absurd rfl asked
    | notifyBrowserClosed => exact notifyBrowserClosed_unnamed unnamed
    | navigateTo url => exact navigateTo_unnamed unnamed url
    | onPreKeyEvent => exact navigateTo_unnamed unnamed PRE_KEY_URL
    | notifyBrowserCreated => exact ⟨unnamed.field, unnamed.window, unnamed.forms⟩
    | other => exact unnamed

/-- After any events, the form that the first request opened is still open. -/
theorem run_unnamed (initUrl : Text) (events : List BrowserEvent) :
    Unnamed (run MyCefBrowser.handle (.new initUrl) events) (.showDevTools ∈ events) := by
  induction events using List.reverseRecOn with
  | nil => exact ⟨rfl, rfl, rfl⟩
  | append_singleton events event ih =>
    have grown : decide (.showDevTools ∈ events ++ [event]) =
        (decide (.showDevTools ∈ events) || decide (event = .showDevTools)) := by
      simp [eq_comm]
    rw [run_concat, grown]
    exact handle_unnamed ih event

/-- A closed browser leaves no form of its developer tools behind exactly in the
runs in which the developer tools are not shown or the browser is not closed. -/
theorem toolsGone_iff (initUrl : Text) (events : List BrowserEvent) :
    ToolsGone initUrl events ↔ .showDevTools ∉ events ∨ .notifyBrowserClosed ∉ events := by
  constructor
  · intro gone
    by_contra both
    obtain ⟨shown, closed⟩ := not_or.mp both
    rw [not_not] at shown closed
    have forms := (run_unnamed initUrl events).forms
    have left : ({} : DevForm) ∈ (run MyCefBrowser.handle (.new initUrl) events).devForms := by
      simp [forms, shown]
    have shut := gone events [] (List.append_nil events).symm closed {} left
    exact absurd shut.1 (by decide)
  · rintro either before after rfl closed form member
    have forms := (run_unnamed initUrl before).forms
    rcases either with unshown | unclosed
    · have none : .showDevTools ∉ before := fun shown => unshown (List.mem_append_left after shown)
      simp [forms, none] at member
    · exact absurd (List.mem_append_left after closed) unclosed

/-- The form of a browser that was closed stays open. -/
theorem toolsGone_open :
    ¬ ToolsGone "about:blank".toList [.showDevTools, .notifyBrowserClosed] := by
  intro gone
  have shut := gone [.showDevTools, .notifyBrowserClosed] [] rfl (by decide) {} (by decide)
  exact absurd shut.1 (by decide)

end DevTools

end CefBridge.Managed
