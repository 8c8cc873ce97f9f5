import Errand.Session.Browser

/-!
# A browser that follows a script

A `Page` stands in for a browser: it says in advance what every call meets. The
state of an element may change from probe to probe, clicks may fail, open tabs,
lead elsewhere or change elements, and every kind of call may take time. A call
has its effect when its time is over, so a call that is broken off has none.
-/

namespace Errand.Rehearsal

/-- What a script holds in the place of a value. -/
inductive Cue (α : Type) where
  | value (a : α)
  | trouble (t : Trouble)
  | breakdown

/-- The reply that a cue amounts to. -/
def Cue.reply {α β : Type} (f : α → β) : Cue α → Reply β
  | .value a => .answer (.ok (f a))
  | .trouble t => .answer (.error t)
  | .breakdown => .breakdown

/-- What a click on an element leads to. -/
structure Click where
  error : Option Trouble
  /-- The address of a tab that opens, and how long that takes. -/
  opensTab : Option (String × Duration)
  /-- The address of the page afterwards. -/
  url : Option String
  /-- Elements that change, each with its states from then on. -/
  shows : List (String × List String)

/-- The kinds of calls that may take time. -/
inductive CallKind where
  | launch
  | goto
  | url
  | probe
  | click
  | type
  | press
  | evaluate
  | screenshot
  | adopt
  | close
deriving DecidableEq, Repr

/-- The kind of a call. -/
def CallKind.of : Call → CallKind
  | .launch => .launch
  | .goto _ => .goto
  | .currentUrl => .url
  | .probe _ => .probe
  | .click _ => .click
  | .type _ _ _ => .type
  | .press _ _ => .press
  | .evaluate _ => .evaluate
  | .screenshot => .screenshot
  | .adopt _ => .adopt
  | .close => .close

/-- The script of a page and how far it has been followed. -/
structure Page where
  url : String
  /-- How many looks at the address still fail. -/
  urlErrors : Nat
  launchError : Option Trouble
  closeError : Option Trouble
  adoptError : Option Trouble
  /-- The states of elements, one for each probe; the last one stays. -/
  elements : List (String × List String)
  /-- Where loading an address leads, if not to that address. -/
  goto : List (String × Except Trouble String)
  clicks : List (String × Click)
  typeErrors : List (String × Trouble)
  pressErrors : List (String × Trouble)
  evaluate : List (Cue Json)
  screenshots : List (Cue String)
  latency : CallKind → Duration
  /-- The tab that is about to open and how long that takes. -/
  pending : Option (String × Duration)
  shots : Nat
  /-- How often each selector has been probed, in the order of the first
  probes. -/
  probes : List (String × Nat)

namespace Page

/-- The list with the value under a key replaced, or added at the end. -/
def put {α : Type} (key : String) (a : α) :
    List (String × α) → List (String × α)
  | [] => [(key, a)]
  | (k, b) :: rest =>
    if k = key then (k, a) :: rest
    else (k, b) :: put key a rest

/-- One more probe of a selector. -/
def count (selector : String) (probes : List (String × Nat)) :
    List (String × Nat) :=
  put selector ((probes.lookup selector).getD 0 + 1) probes

/-- The state that a probe finds, and the page afterwards. -/
def probed (selector : String) (p : Page) :
    Except Trouble ElementState × Page :=
  let p := { p with probes := count selector p.probes }
  let states := (p.elements.lookup selector).getD []
  let p := match states with
    | _ :: next :: rest =>
      { p with elements := put selector (next :: rest) p.elements }
    | _ => p
  match states.head? with
  | none | some "detached" => (.ok .detached, p)
  | some "visible" => (.ok .visible, p)
  | some "hidden" => (.ok .hidden, p)
  | some text => (.error (.plain text), p)

/-- The page after a click, if it does not fail. -/
def clicked (selector : String) (p : Page) : Except Trouble Unit × Page :=
  match p.clicks.lookup selector with
  | none => (.ok (), p)
  | some c =>
    match c.error with
    | some t => (.error t, p)
    | none =>
      (.ok (), { p with
        pending := c.opensTab.or p.pending
        url := c.url.getD p.url
        elements :=
          c.shows.foldl (fun es (sel, states) => put sel states es)
            p.elements })

/-- Trouble if there is any. -/
def orTrouble (t : Option Trouble) : Except Trouble Unit :=
  match t with
  | some t => .error t
  | none => .ok ()

/-- The effect of a call whose time is over. -/
def effect : (c : Call) → Page → Act Page c.Answer
  | .launch, p => .finish (.answer (orTrouble p.launchError)) p
  | .goto url, p =>
    match p.goto.lookup url with
    | some (.error t) => .finish (.answer (.error t)) p
    | some (.ok landing) => .finish (.answer (.ok ())) { p with url := landing }
    | none => .finish (.answer (.ok ())) { p with url }
  | .currentUrl, p =>
    match p.urlErrors with
    | 0 => .finish (.answer (.ok p.url)) p
    | n + 1 =>
      .finish (.answer (.error (.plain "url unavailable")))
        { p with urlErrors := n }
  | .probe selector, p =>
    let (r, p) := probed selector p
    .finish (.answer r) p
  | .click selector, p =>
    let (r, p) := clicked selector p
    .finish (.answer r) p
  | .type selector _ _, p =>
    .finish
      (.answer (orTrouble (p.typeErrors.lookup (selector.getD "<focused>")))) p
  | .press selector _, p =>
    .finish
      (.answer (orTrouble (p.pressErrors.lookup (selector.getD "<page>")))) p
  | .evaluate _, p =>
    match p.evaluate with
    | [] => .finish (.answer (.ok Json.null)) p
    | cue :: rest => .finish (cue.reply id) { p with evaluate := rest }
  | .screenshot, p =>
    let p := { p with shots := p.shots + 1 }
    match p.screenshots with
    | [] =>
      .finish (.answer (.ok ("/shots/" ++ Decimal.text p.shots ++ ".png"))) p
    | cue :: rest => .finish (cue.reply id) { p with screenshots := rest }
  | .adopt wait, p =>
    match p.adoptError, p.pending with
    | some t, _ => .finish (.answer (.error t)) p
    | none, some (url, after) =>
      if after ≤ wait then
        .wait p after (.finish (.answer (.ok true))
            { p with url, pending := none })
      else .wait p wait (.finish (.answer (.ok false)) p)
    | none, none => .wait p wait (.finish (.answer (.ok false)) p)
  | .close, p => .finish (.answer (orTrouble p.closeError)) p

/-- The browser that follows the script. -/
def browser : Browser Page where
  perform c _ p := .wait p (p.latency (.of c)) (effect c p)

end Page

end Errand.Rehearsal
