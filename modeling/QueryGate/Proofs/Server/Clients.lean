import QueryGate.Proofs.Server.Kills
import QueryGate.Server.Client

/-!
# The connections of a client

A client connects and then answers one request after another. Its connections come about by events,
whatever the server does, so that what every state keeps its client keeps, too: no kill that it
sends meets a connection that is used again (`Connections.Reachable.kills`).

* `Sane workers capacity c`: the connections of the client `c` can come about.

Headlines: **`sane_connect`**, **`Sane.ask`**, **`Sane.admin`**: the connections are sane once the
client has connected, and every request keeps them so.
-/

namespace QueryGate.Server.Client

open Connections

variable {c : Client} {workers capacity : Nat}

/-- The connections of the client can come about. -/
def Sane (workers capacity : Nat) (c : Client) : Prop :=
  Reachable workers capacity c.connections

theorem Sane.happen (h : c.Sane workers capacity) (e : ConnectionEvent) :
    (c.happen e).Sane workers capacity := by
  unfold Sane Client.happen
  cases hstep : c.connections.step e with
  | none => exact h
  | some d => exact Reachable.next e h hstep

/-- What a client says besides does not matter for its connections. -/
theorem Sane.of_connections {c' : Client} (h : c.Sane workers capacity)
    (hsame : c'.connections = c.connections) : c'.Sane workers capacity := by
  unfold Sane
  rw [hsame]
  exact h

/-! ## Connecting -/

/-- A pool may open its connections in vain. -/
theorem reachable_refused (hpos : 0 < capacity) (accepted : Nat) :
    Reachable workers capacity { workers, capacity, accepted } := by
  induction accepted with
  | zero => exact .start
  | succ accepted ih =>
    refine ih.next (.borrow .refused) ?_
    simp [step, supply?, openCount, hpos]

/-- It may open one that then is idle. -/
theorem reachable_idle (hpos : 0 < capacity) (accepted : Nat) :
    Reachable workers capacity
      { workers, capacity, accepted := accepted + 1, idle := [accepted + 1] } := by
  have hborrow : Reachable workers capacity
      { workers, capacity, accepted := accepted + 1, borrowed := [accepted + 1] } := by
    refine (reachable_refused hpos accepted).next (.borrow .fresh) ?_
    simp [step, supply?, openCount, hpos]
  refine hborrow.next (.giveBack (accepted + 1)) ?_
  simp [step]

/-- A client that has tried in vain. -/
theorem sane_of_refused (hpos : 0 < capacity) (accepted : Nat)
    (h : c.connections = { workers, capacity, accepted }) : c.Sane workers capacity := by
  unfold Sane
  rw [h]
  exact reachable_refused hpos accepted

theorem sane_attempt (hpos : 0 < capacity) (more accepted : Nat)
    (h : c.connections = { workers, capacity, accepted }) :
    (c.attempt more).2.Sane workers capacity := by
  induction more generalizing c accepted with
  | zero => exact sane_of_refused hpos accepted h
  | succ more ih =>
    unfold attempt
    split
    · dsimp only
      split
      · unfold Sane
        rw [h]
        exact reachable_idle hpos accepted
      · split
        · exact ih (accepted + 1) (by rw [h])
        · exact sane_of_refused hpos (accepted + 1) (by rw [h])
    · exact sane_of_refused hpos accepted h

/-- **The connections of a client that has connected, or has given up, can come about.** -/
theorem sane_connect (script : Script) (database : Connection) (hpos : 0 < database.poolSize) :
    (connect script database workers).2.Sane workers database.poolSize := by
  unfold connect
  dsimp only
  split
  · exact .start
  · split
    · exact .start
    · exact sane_attempt hpos maxAttempts 0 rfl

/-! ## Requests -/

theorem Sane.respond {talk : Talk} (h : talk.client.Sane workers capacity) (command : Command) :
    (talk.respond command).2.client.Sane workers capacity := by
  have hbegin (begins : Bool) (client : Client) (hclient : client.Sane workers capacity) :
      (if begins then client.happen (.begun talk.unit) else client).Sane workers capacity := by
    split
    · exact hclient.happen _
    · exact hclient
  exact hbegin _ _ (h.of_connections rfl)

/-- A conversation keeps the connections sane. -/
theorem Sane.converse {α : Type} {d : Dialogue α} {talk talk' : Talk} {result : Except Command α}
    (h : talk.client.Sane workers capacity)
    (htalk : d.converse Talk.respond talk = (result, talk')) :
    talk'.client.Sane workers capacity := by
  induction d generalizing talk with
  | done a => exact (Prod.mk.inj htalk).2 ▸ h
  | issue command next ih =>
    have hafter := h.respond command
    rw [Dialogue.converse] at htalk
    split at htalk
    · rename_i hanswer
      rw [hanswer] at hafter
      exact ih _ hafter htalk
    · rename_i hanswer
      rw [hanswer] at hafter
      exact (Prod.mk.inj htalk).2 ▸ hafter

theorem Sane.discard (h : c.Sane workers capacity) (unit number : Nat) (hung : Command) :
    (c.discard unit number hung).Sane workers capacity := by
  have hleft := h.happen (.abandon unit)
  have hkill (logins : List Login) (supply : Supply) :
      ({ c.happen (.abandon unit) with logins }.happen (.kill unit supply)).Sane workers capacity :=
    (hleft.of_connections rfl).happen _
  unfold Client.discard
  dsimp only
  refine Sane.happen ?_ _
  split
  · split
    · exact ((hkill _ _).of_connections rfl).happen _
    · exact hkill _ _
  · refine Sane.of_connections ?_ rfl
    split
    · exact ((hkill _ _).of_connections rfl).happen _
    · exact hkill _ _

/-- **Every request keeps the connections sane**, whatever the server does. -/
theorem Sane.ask (h : c.Sane workers capacity) (ms : Nat) (r : Request) :
    (c.ask ms r).2.Sane workers capacity := by
  have hacquire (unit : Nat) :
      (({ c with logins := c.supply.2.2 }.happen .arrive).happen
        (.acquire unit c.supply.1)).Sane workers capacity :=
    (Sane.happen (h.of_connections rfl) _).happen _
  unfold Client.ask
  split
  · exact h
  · dsimp only
    split
    · split
      · rename_i hanswer
        have htalk := Sane.converse (hacquire _) hanswer
        split
        · exact Sane.happen (htalk.of_connections rfl) _
        · exact htalk.happen _
      · rename_i hanswer
        have htalk := Sane.converse (hacquire _) hanswer
        split
        · exact htalk
        · exact htalk
        · exact htalk.discard _ _ _
    · split
      · exact (hacquire _).happen _
      · exact hacquire _

/-- **So does an administrator's statement.** -/
theorem Sane.admin (h : c.Sane workers capacity) (sql : Sql) :
    (c.admin sql).2.Sane workers capacity := by
  have hborrow (logins : List Login) (supply : Supply) :
      ({ c with logins }.happen (.borrow supply)).Sane workers capacity :=
    (h.of_connections rfl).happen _
  unfold Client.admin
  split
  · exact h
  · dsimp only
    split
    · split
      · exact Sane.happen ((hborrow _ _).of_connections rfl) _
      · exact Sane.happen ((hborrow _ _).of_connections rfl) _
      · exact (hborrow _ _).of_connections rfl
      · exact Sane.happen ((hborrow _ _).of_connections rfl) _
    · exact hborrow _ _

end QueryGate.Server.Client
