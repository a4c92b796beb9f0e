/-
This file follows an installation through the calls of a session: every configuration is handed back
once, in the order of its arrival, and a snapshot explains requests as it did when it was taken.
-/

import DocumentQuery.Proofs.Service.Execution
import DocumentQuery.Service.Installation
import Mathlib.Data.List.Induction

namespace DocumentQuery

/-- Snapshots are kept in the order in which they were returned. -/
structure Session where
  installation : Installation
  snapshots : List Installed := []

namespace Session

/-- A caller asks for the configuration in effect, puts another one into effect or explains a
request under a snapshot that an earlier call returned. -/
inductive Call where
  | current
  | replace (configuration : Configuration)
  | explain (snapshot : Nat) (request : QueryRequest)

/-- A reply is a snapshot or an explanation, or it says that there is no such snapshot. -/
inductive Reply where
  | snapshot (taken : Installed)
  | explanation (outcome : Except ServiceFailure Explanation)
  | unknownSnapshot

namespace Call

/-- Every call but an explanation returns a snapshot. -/
def returnsSnapshot : Call → Bool
  | .current | .replace _ => true
  | .explain .. => false

def installs? : Call → Option Configuration
  | .replace configuration => some configuration
  | .current | .explain .. => none

end Call

def start (configuration : Configuration) : Session :=
  ⟨.start configuration, []⟩

/-- An explanation reads the snapshot and not the configuration in effect. -/
def reply (session : Session) : Call → Reply
  | .current => .snapshot session.installation.current
  | .replace configuration => .snapshot (session.installation.replace configuration).1
  | .explain snapshot request =>
      match session.snapshots[snapshot]? with
      | some taken => .explanation (taken.configuration.explain request)
      | none => .unknownSnapshot

/-- A snapshot that is returned is added to the others, and a replacement takes effect. -/
def next (session : Session) : Call → Session
  | .current =>
      { session with snapshots := session.snapshots ++ [session.installation.current] }
  | .replace configuration =>
      let (previous, installation) := session.installation.replace configuration
      ⟨installation, session.snapshots ++ [previous]⟩
  | .explain .. => session

def nextEach (session : Session) (calls : List Call) : Session :=
  calls.foldl next session

/-- The replies stand in the order of the calls. -/
def replies : Session → List Call → List Reply
  | _, [] => []
  | session, call :: rest => session.reply call :: (session.next call).replies rest

/-- The configuration installed last is in effect, and its number counts those before it. -/
def inEffect (first : Configuration) (calls : List Call) : Installed where
  number := (calls.filterMap Call.installs?).length
  configuration := (calls.filterMap Call.installs?).getLastD first

/-- These are the snapshots that replacements returned. -/
def handedBack (calls : List Call) (replies : List Reply) : List Installed :=
  (calls.zip replies).filterMap fun
    | (.replace _, .snapshot previous) => some previous
    | _ => none

section Replies

variable (session : Session)

/-- The replies to later calls start from where the earlier ones lead. -/
theorem replies_append (first second : List Call) :
    session.replies (first ++ second) =
      session.replies first ++ (session.nextEach first).replies second := by
  induction first generalizing session with
  | nil => rfl
  | cons call rest continued =>
      rw [List.cons_append, replies, continued]
      rfl

/-- Each call has one reply. -/
theorem replies_length (calls : List Call) : (session.replies calls).length = calls.length := by
  induction calls generalizing session with
  | nil => rfl
  | cons call rest continued => exact congrArg Nat.succ (continued _)

/-- A reply depends on no later call. -/
theorem reply_at (before : List Call) (call : Call) (after : List Call) :
    (session.replies (before ++ call :: after))[before.length]? =
      some ((session.nextEach before).reply call) := by
  have length := session.replies_length before
  rw [replies_append, List.getElem?_append_right (Nat.le_of_eq length), length, Nat.sub_self]
  rfl

/-- The last call is made after all others. -/
theorem nextEach_concat (calls : List Call) (call : Call) :
    session.nextEach (calls ++ [call]) = (session.nextEach calls).next call := by
  rw [nextEach, List.foldl_append]
  rfl

end Replies

/-- Only a replacement puts another configuration into effect. -/
theorem inEffect_replace (first : Configuration) (calls : List Call)
    (configuration : Configuration) :
    inEffect first (calls ++ [.replace configuration]) =
      ⟨(inEffect first calls).number + 1, configuration⟩ := by
  simp [inEffect, Call.installs?]

/-- A call that installs nothing leaves the configuration in effect. -/
theorem inEffect_silent (first : Configuration) (calls : List Call) {call : Call}
    (silent : call.installs? = none) : inEffect first (calls ++ [call]) = inEffect first calls := by
  simp [inEffect, silent]

/-- The session holds the configuration in effect and every snapshot as it was taken. -/
structure Follows (session : Session) (first : Configuration) (calls : List Call) : Prop where
  current : session.installation.current = inEffect first calls
  counted : session.snapshots.length = calls.countP Call.returnsSnapshot
  kept : ∀ earlier call later, calls = earlier ++ call :: later → call.returnsSnapshot →
    session.snapshots[earlier.countP Call.returnsSnapshot]? = some (inEffect first earlier)

namespace Follows

variable {session : Session} {first : Configuration} {calls : List Call}

/-- A session follows the empty history when it starts. -/
theorem start : (Session.start first).Follows first [] :=
  ⟨rfl, rfl, fun _ _ _ split => absurd split.symm (List.append_ne_nil_of_right_ne_nil _ nofun)⟩

/-- A call that returns a snapshot returns the configuration in effect. -/
theorem reply (follows : session.Follows first calls) {call : Call}
    (returns : call.returnsSnapshot) : session.reply call = .snapshot (inEffect first calls) := by
  rw [← follows.current]
  cases call with
  | current => rfl
  | replace configuration => rfl
  | explain snapshot request => cases returns

/-- A snapshot that is returned is kept behind the others. -/
theorem snapshots_next (follows : session.Follows first calls) {call : Call}
    (returns : call.returnsSnapshot) :
    (session.next call).snapshots = session.snapshots ++ [inEffect first calls] := by
  rw [← follows.current]
  cases call with
  | current => rfl
  | replace configuration => rfl
  | explain snapshot request => cases returns

/-- The configuration in effect is the one that the calls so far have put there. -/
theorem current_next (follows : session.Follows first calls) (call : Call) :
    (session.next call).installation.current = inEffect first (calls ++ [call]) := by
  cases call with
  | current => rw [inEffect_silent first calls rfl, ← follows.current]; rfl
  | explain snapshot request => rw [inEffect_silent first calls rfl, ← follows.current]; rfl
  | replace configuration => rw [inEffect_replace, ← follows.current]; rfl

/-- There are as many snapshots as calls that return one. -/
theorem counted_next (follows : session.Follows first calls) (call : Call) :
    (session.next call).snapshots.length = (calls ++ [call]).countP Call.returnsSnapshot := by
  rw [List.countP_append, List.countP_singleton]
  cases returns : call.returnsSnapshot with
  | true =>
      rw [follows.snapshots_next returns, List.length_append, follows.counted]
      rfl
  | false =>
      cases call with
      | current => cases returns
      | replace configuration => cases returns
      | explain snapshot request => exact follows.counted

/-- A snapshot keeps its place when others are taken. -/
theorem kept_next {place : Nat} {taken : Installed} (kept : session.snapshots[place]? = some taken)
    (call : Call) : (session.next call).snapshots[place]? = some taken := by
  obtain ⟨inside, _⟩ := List.getElem?_eq_some_iff.mp kept
  cases call with
  | current => exact (List.getElem?_append_left inside).trans kept
  | replace configuration => exact (List.getElem?_append_left inside).trans kept
  | explain snapshot request => exact kept

/-- A session that follows its calls goes on to follow the next one. -/
theorem next (follows : session.Follows first calls) (call : Call) :
    (session.next call).Follows first (calls ++ [call]) := by
  refine ⟨follows.current_next call, follows.counted_next call, ?_⟩
  intro earlier taking later split returns
  obtain rfl | ⟨others, last, rfl⟩ := later.eq_nil_or_concat
  · -- The call itself took the snapshot.
    obtain ⟨rfl, same⟩ := List.append_inj' split rfl
    cases same
    rw [follows.snapshots_next returns, ← follows.counted, List.getElem?_concat_length]
  · have regrouped : calls ++ [call] = (earlier ++ taking :: others) ++ [last] := by
      simpa using split
    obtain ⟨before, _⟩ := List.append_inj' regrouped rfl
    exact kept_next (follows.kept earlier taking others before returns) call

/-- A session that starts with a configuration follows all of its calls. -/
theorem nextEach (first : Configuration) (calls : List Call) :
    ((Session.start first).nextEach calls).Follows first calls := by
  induction calls using List.reverseRecOn with
  | nil => exact start
  | append_singleton calls call continued =>
      rw [nextEach_concat]
      exact continued.next call

end Follows

/-- Each replacement hands back what it replaces, and the last configuration stays in effect. -/
theorem handedBack_replies (session : Session) (calls : List Call) :
    handedBack calls (session.replies calls) ++
        [(session.nextEach calls).installation.current] =
      (session.installation.current.configuration :: calls.filterMap Call.installs?).mapIdx
        fun index configuration =>
          ⟨session.installation.current.number + index, configuration⟩ := by
  induction calls generalizing session with
  | nil => rfl
  | cons call rest continued =>
      cases call with
      | current => exact continued _
      | explain snapshot request => exact continued session
      | replace configuration =>
          have onward := continued (session.next (.replace configuration))
          have first : handedBack (.replace configuration :: rest)
              (session.replies (.replace configuration :: rest)) =
              session.installation.current ::
                handedBack rest ((session.next (.replace configuration)).replies rest) := rfl
          have listed : (Call.replace configuration :: rest).filterMap Call.installs? =
              configuration :: rest.filterMap Call.installs? := rfl
          rw [first, listed, List.mapIdx_cons, List.cons_append]
          apply congrArg (session.installation.current :: ·)
          apply onward.trans
          congr 1
          funext index installed
          have shifted : session.installation.current.number + 1 + index =
              session.installation.current.number + (index + 1) := by omega
          exact congrArg (Installed.mk · installed) shifted

/-- A session answers each call with the configuration that was installed last, hands back every
configuration once, and explains a request under a snapshot as the snapshot was taken. -/
theorem snapshots_stand (first : Configuration) (calls : List Call) :
    (∀ before call after, calls = before ++ call :: after → call.returnsSnapshot →
      ((start first).replies calls)[before.length]? = some (.snapshot (inEffect first before))) ∧
    handedBack calls ((start first).replies calls) ++
        [((start first).nextEach calls).installation.current] =
      (first :: calls.filterMap Call.installs?).mapIdx Installed.mk ∧
    ∀ earlier taking later request after, taking.returnsSnapshot →
      calls = (earlier ++ taking :: later) ++
        .explain (earlier.countP Call.returnsSnapshot) request :: after →
      ∃ taken, ((start first).replies calls)[earlier.length]? = some (.snapshot taken) ∧
        ((start first).replies calls)[(earlier ++ taking :: later).length]? =
          some (.explanation (taken.configuration.explain request)) := by
  refine ⟨?_, ?_, ?_⟩
  · rintro before call after rfl returns
    rw [reply_at, (Follows.nextEach first before).reply returns]
  · rw [handedBack_replies]
    congr 1
    funext index installed
    exact congrArg (Installed.mk · installed) (Nat.zero_add index)
  · rintro earlier taking later request after returns rfl
    refine ⟨inEffect first earlier, ?_, ?_⟩
    · rw [List.append_assoc, List.cons_append, reply_at,
        (Follows.nextEach first earlier).reply returns]
    · rw [reply_at, reply,
        (Follows.nextEach first (earlier ++ taking :: later)).kept earlier taking later rfl returns]

end Session

/-- Under this configuration, no collection is known. -/
def Sample.bareService : Configuration :=
  { Sample.service with schema := ⟨[], [], []⟩ }

/-- The request is explained under the snapshot after its collection is gone. -/
theorem Session.snapshot_stands_sample :
    let replies := (start Sample.service).replies
      [.current, .replace Sample.bareService, .explain 0 Sample.request, .current]
    replies[0]? = some (.snapshot ⟨0, Sample.service⟩) ∧
      replies[2]? = some (.explanation (Sample.service.explain Sample.request)) ∧
        replies[3]? = some (.snapshot ⟨1, Sample.bareService⟩) := by
  obtain ⟨current, _, explained⟩ := snapshots_stand Sample.service
    [.current, .replace Sample.bareService, .explain 0 Sample.request, .current]
  have before := current [] _ _ rfl rfl
  obtain ⟨taken, returned, answered⟩ :=
    explained [] .current [.replace Sample.bareService] Sample.request [.current] rfl rfl
  cases before.symm.trans returned
  exact ⟨before, answered, current [_, _, _] _ [] rfl rfl⟩

end DocumentQuery
