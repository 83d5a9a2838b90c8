import RouteLease.Manager
import RouteLease.Proofs.Wire.Encode
import RouteLease.Proofs.RouteTable.Lifetime

/-!
# Runs of the routing manager

A run is a list of the things that happen to a manager (`ManagerOp`): a sink is attached, a DNS
answer arrives, the kernel confirms or removes a route, a new interface snapshot comes in, a tick
fires. `RoutingManager.run` applies them in order.

Everything the manager sends goes through `send`, and this file says once what sending does:
`Sent m m' routes` holds when the sink of `m'` has received the requests of `routes` after those
of `m`, numbered on from the counter of `m` (`Numbered`). Without a sink nothing is sent. Every
route of a push encodes (`routeGroup_encodable`): its destination is valid, and the configured
gateway is of the destination's family by its type. So a push never loses a message of its group
and never skips a sequence number.

Sending changes only the counter and the sink: the table, the settings, the interface and its
index stay (`foldl_send_frame`). The table after each operation is therefore the table operation's
result (`table_apply_insert` and the lemmas after it), and the table stays valid along every run
(`valid_run`).
-/

namespace RouteLease

open Wire

/-- One thing that happens to a routing manager. -/
inductive ManagerOp where
  /-- A route sink is attached, with the index of the managed interface. -/
  | attach (ifindex : UInt32)
  /-- A DNS answer for a destination with a time to live, at a clock reading. -/
  | insert (now : Nat) (dest : IpAddress) (ttl : Nat)
  /-- The kernel confirmed a route to a destination, at a clock reading. -/
  | confirmAdd (now : Nat) (dest : IpAddress)
  /-- The kernel removed a route to a destination. -/
  | confirmDel (dest : IpAddress)
  /-- A new interface snapshot, with the index the system reports for the interface, if any. -/
  | netdevUpdate (lookup : Option UInt32) (config : InterfaceConfig)
  /-- A management tick, at a clock reading. -/
  | tick (now : Nat)

namespace RoutingManager

/-- A new manager: an empty table and no sink. -/
def init (s : RouteSettings) : RoutingManager :=
  { settings := s }

/-- What one operation does to a manager. -/
def apply (m : RoutingManager) : ManagerOp → RoutingManager
  | .attach ifindex => m.attach ifindex
  | .insert now dest ttl => m.insert now dest ttl
  | .confirmAdd now dest => m.confirmAdd now dest
  | .confirmDel dest => m.confirmDel dest
  | .netdevUpdate lookup config => m.netdevUpdate lookup config
  | .tick now => (m.tick now).1

/-- The manager after a run of operations. -/
def run (m : RoutingManager) (ops : List ManagerOp) : RoutingManager :=
  ops.foldl apply m

/-- The empty run leaves the manager as it is. -/
@[simp]
theorem run_nil (m : RoutingManager) : m.run [] = m :=
  rfl

/-- A run applies its first operation, then runs the rest. -/
@[simp]
theorem run_cons (m : RoutingManager) (o : ManagerOp) (ops : List ManagerOp) :
    m.run (o :: ops) = (m.apply o).run ops :=
  rfl

/-- Running two lists of operations one after the other is running their concatenation. -/
theorem run_append (m : RoutingManager) (ops ops' : List ManagerOp) :
    m.run (ops ++ ops') = (m.run ops).run ops' :=
  List.foldl_append

/-- The manager after collecting the kernel's rejections, the first thing a tick does. -/
def collect (m : RoutingManager) : RoutingManager :=
  if m.attached then { m with sink := { m.sink with rejected := [] } } else m

/-! ## The routes of a push -/

/-- Every route of a push is for the pushed destination and operation. -/
theorem op_dest_of_mem_routeGroup {m : RoutingManager} {d : IpAddress} {op : RouteOp}
    {s : RouteSpec} (h : s ∈ m.routeGroup d op) : s.op = op ∧ s.dest = d := by
  unfold routeGroup at h
  split at h
  · simp at h
  · cases op with
    | install =>
      -- the blackhole route, then the regular one while the interface is routable
      simp only at h
      split at h <;> simp at h <;> rcases h with rfl | rfl <;> exact ⟨rfl, rfl⟩
    | withdraw =>
      simp at h
      rcases h with rfl | rfl <;> exact ⟨rfl, rfl⟩

/-- The configured gateway of a family is of that family. -/
theorem isOf_of_gatewayFor_eq_some {s : RouteSettings} {f : IpFamily} {g : IpAddress}
    (h : s.gatewayFor f = some g) : g.isOf f = true := by
  cases f <;> simp only [RouteSettings.gatewayFor, Option.map_eq_some_iff] at h <;>
    obtain ⟨v, -, rfl⟩ := h <;> rfl

/-- Every route of a push encodes. -/
theorem routeGroup_encodable {m : RoutingManager} {d : IpAddress} {op : RouteOp} {s : RouteSpec}
    (h : s ∈ m.routeGroup d op) : ∃ f, s.Encodable f := by
  unfold routeGroup at h
  split at h
  · simp at h
  · rename_i f hf
    refine ⟨f, ?_⟩
    cases op with
    | install =>
      simp only at h
      split at h <;> simp at h <;> rcases h with rfl | rfl <;> refine ⟨hf, fun g _ hg => ?_⟩ <;>
        simp at hg
      -- the regular route carries the family's gateway, if any
      exact isOf_of_gatewayFor_eq_some hg.2
    | withdraw =>
      simp at h
      rcases h with rfl | rfl <;> exact ⟨hf, fun g _ hg => by simp at hg⟩

/-! ## Sending -/

/-- The sink of `m'` has received the requests of `routes` after the messages of `m`, numbered on
from the counter of `m` to the counter of `m'`. -/
def Sent (m m' : RoutingManager) (routes : List RouteSpec) : Prop :=
  ∃ msgs, Numbered m.seq routes msgs m'.seq ∧ m'.sink.sent = m.sink.sent ++ msgs

/-- A step that changes neither the counter nor the sent messages sends nothing. -/
theorem Sent.of_eq {m m' : RoutingManager} (hs : m'.seq = m.seq)
    (hm : m'.sink.sent = m.sink.sent) : Sent m m' [] :=
  ⟨[], hs ▸ .nil _, by simp [hm]⟩

/-- What two steps in a row send is what the first sends, then what the second sends. -/
theorem Sent.trans {m₁ m₂ m₃ : RoutingManager} {r₁ r₂ : List RouteSpec} (h₁ : Sent m₁ m₂ r₁)
    (h₂ : Sent m₂ m₃ r₂) : Sent m₁ m₃ (r₁ ++ r₂) := by
  obtain ⟨msgs₁, hn₁, hs₁⟩ := h₁
  obtain ⟨msgs₂, hn₂, hs₂⟩ := h₂
  exact ⟨msgs₁ ++ msgs₂, hn₁.append hn₂, by rw [hs₂, hs₁, List.append_assoc]⟩

/-- The routes sent may be given in any equal form. -/
theorem Sent.congr_routes {m m' : RoutingManager} {r r' : List RouteSpec} (h : Sent m m' r)
    (e : r = r') : Sent m m' r' :=
  e ▸ h

/-- A send changes the counter and the messages of the sink, and nothing else. -/
theorem send_frame (m : RoutingManager) (s : RouteSpec) :
    ∃ seq sent, m.send s = { m with seq, sink := { m.sink with sent } } := by
  unfold send
  split
  · exact ⟨m.seq, m.sink.sent, rfl⟩
  · dsimp only
    split
    · exact ⟨_, _, rfl⟩
    · exact ⟨_, m.sink.sent, rfl⟩

/-- Sending many routes changes the counter and the messages of the sink, and nothing else. -/
theorem foldl_send_frame (routes : List RouteSpec) (m : RoutingManager) :
    ∃ seq sent, routes.foldl send m = { m with seq, sink := { m.sink with sent } } := by
  induction routes generalizing m with
  | nil => exact ⟨m.seq, m.sink.sent, rfl⟩
  | cons s rest ih =>
    obtain ⟨seq₁, sent₁, h₁⟩ := send_frame m s
    obtain ⟨seq₂, sent₂, h₂⟩ := ih (m.send s)
    exact ⟨seq₂, sent₂, by rw [List.foldl_cons, h₂, h₁]⟩

/-- With a sink, sending routes that encode appends their requests under the next numbers;
without one, nothing happens. -/
theorem foldl_send_sent (routes : List RouteSpec) (m : RoutingManager)
    (h : ∀ s ∈ routes, ∃ f, s.Encodable f) :
    Sent m (routes.foldl send m) (if m.attached then routes else []) := by
  induction routes generalizing m with
  | nil =>
    rw [ite_self]
    exact Sent.of_eq rfl rfl
  | cons s rest ih =>
    have hrest := ih (m.send s) fun s' hs' => h s' (List.mem_cons_of_mem _ hs')
    rw [List.foldl_cons]
    cases ha : m.attached
    · -- without a sink the send does nothing
      have hm : m.send s = m := by simp [send, ha]
      rw [hm] at hrest ⊢
      simpa [ha] using hrest
    · obtain ⟨f, hf⟩ := h s List.mem_cons_self
      have hm : m.send s = { m with seq := m.seq + 1, sink := { m.sink with
          sent := m.sink.sent ++ [(routeRequest s f (m.seq + 1)).encode] } } := by
        simp [send, ha, encodeRoute_eq_ok hf]
      rw [hm] at hrest ⊢
      obtain ⟨msgs, hn, hs⟩ := hrest
      simp only [ha, if_true] at hn hs ⊢
      refine ⟨_ :: msgs, .cons (encodeRoute_eq_ok hf _) hn, ?_⟩
      rw [hs, List.append_assoc, List.singleton_append]

/-! ## Pushing -/

/-- A push changes the counter and the messages of the sink, and nothing else. -/
theorem pushRoute_frame (m : RoutingManager) (d : IpAddress) (op : RouteOp) :
    ∃ seq sent, m.pushRoute d op = { m with seq, sink := { m.sink with sent } } :=
  foldl_send_frame _ m

/-- A push sends the route group of its destination and operation when a sink is attached. -/
theorem pushRoute_sent (m : RoutingManager) (d : IpAddress) (op : RouteOp) :
    Sent m (m.pushRoute d op) (if m.attached then m.routeGroup d op else []) :=
  foldl_send_sent _ m fun _ hs => routeGroup_encodable hs

section Pushes

variable {α : Type} (l : List α) (g : α → IpAddress) (op : RouteOp)

/-- Pushing the routes of many destinations changes the counter and the sink only. -/
theorem foldl_pushRoute_frame (m : RoutingManager) :
    ∃ seq sent, l.foldl (fun m x => m.pushRoute (g x) op) m =
      { m with seq, sink := { m.sink with sent } } := by
  induction l generalizing m with
  | nil => exact ⟨m.seq, m.sink.sent, rfl⟩
  | cons x rest ih =>
    obtain ⟨seq₁, sent₁, h₁⟩ := pushRoute_frame m (g x) op
    obtain ⟨seq₂, sent₂, h₂⟩ := ih (m.pushRoute (g x) op)
    exact ⟨seq₂, sent₂, by rw [List.foldl_cons, h₂, h₁]⟩

/-- Pushing the routes of many destinations sends their groups one after the other. -/
theorem foldl_pushRoute_sent (m : RoutingManager) :
    Sent m (l.foldl (fun m x => m.pushRoute (g x) op) m)
      (if m.attached then l.flatMap fun x => m.routeGroup (g x) op else []) := by
  induction l generalizing m with
  | nil =>
    rw [List.flatMap_nil, ite_self]
    exact Sent.of_eq rfl rfl
  | cons x rest ih =>
    have h := (pushRoute_sent m (g x) op).trans (ih (m.pushRoute (g x) op))
    obtain ⟨seq, sent, hm⟩ := pushRoute_frame m (g x) op
    rw [hm] at h
    -- the push leaves the sink attached or not, and every group as it was
    have hgroup : ∀ y,
        ({ m with seq, sink := { m.sink with sent } } : RoutingManager).routeGroup y op =
          m.routeGroup y op := fun _ => rfl
    simp only [hgroup] at h
    rw [List.foldl_cons, hm, List.flatMap_cons]
    cases ha : m.attached <;> simp only [ha] at h ⊢ <;> simpa using h

/-- Pushing the routes of many destinations keeps the table. -/
@[simp]
theorem table_foldl_pushRoute (m : RoutingManager) :
    (l.foldl (fun m x => m.pushRoute (g x) op) m).table = m.table := by
  obtain ⟨seq, sent, h⟩ := foldl_pushRoute_frame l g op m
  rw [h]

/-- Pushing the routes of many destinations keeps the settings. -/
@[simp]
theorem settings_foldl_pushRoute (m : RoutingManager) :
    (l.foldl (fun m x => m.pushRoute (g x) op) m).settings = m.settings := by
  obtain ⟨seq, sent, h⟩ := foldl_pushRoute_frame l g op m
  rw [h]

/-- Pushing the routes of many destinations keeps the interface. -/
@[simp]
theorem interface_foldl_pushRoute (m : RoutingManager) :
    (l.foldl (fun m x => m.pushRoute (g x) op) m).interface = m.interface := by
  obtain ⟨seq, sent, h⟩ := foldl_pushRoute_frame l g op m
  rw [h]

/-- Pushing the routes of many destinations keeps the interface index. -/
@[simp]
theorem ifindex_foldl_pushRoute (m : RoutingManager) :
    (l.foldl (fun m x => m.pushRoute (g x) op) m).ifindex = m.ifindex := by
  obtain ⟨seq, sent, h⟩ := foldl_pushRoute_frame l g op m
  rw [h]

/-- Pushing the routes of many destinations keeps the sink attached or detached. -/
@[simp]
theorem attached_foldl_pushRoute (m : RoutingManager) :
    (l.foldl (fun m x => m.pushRoute (g x) op) m).attached = m.attached := by
  obtain ⟨seq, sent, h⟩ := foldl_pushRoute_frame l g op m
  rw [h]

end Pushes

/-- A push keeps the table. -/
@[simp]
theorem table_pushRoute (m : RoutingManager) (d : IpAddress) (op : RouteOp) :
    (m.pushRoute d op).table = m.table :=
  table_foldl_pushRoute [d] id op m

/-- A push keeps the sink attached or detached. -/
@[simp]
theorem attached_pushRoute (m : RoutingManager) (d : IpAddress) (op : RouteOp) :
    (m.pushRoute d op).attached = m.attached :=
  attached_foldl_pushRoute [d] id op m

/-- A push keeps the settings. -/
@[simp]
theorem settings_pushRoute (m : RoutingManager) (d : IpAddress) (op : RouteOp) :
    (m.pushRoute d op).settings = m.settings :=
  settings_foldl_pushRoute [d] id op m

section Collect

variable (m : RoutingManager)

/-- Collecting the rejections keeps the table. -/
@[simp] theorem collect_table : m.collect.table = m.table := by unfold collect; split <;> rfl

/-- Collecting the rejections keeps the settings. -/
@[simp] theorem collect_settings : m.collect.settings = m.settings := by
  unfold collect; split <;> rfl

/-- Collecting the rejections keeps the interface. -/
@[simp] theorem collect_interface : m.collect.interface = m.interface := by
  unfold collect; split <;> rfl

/-- Collecting the rejections keeps the interface index. -/
@[simp] theorem collect_ifindex : m.collect.ifindex = m.ifindex := by unfold collect; split <;> rfl

/-- Collecting the rejections keeps the sink attached or detached. -/
@[simp] theorem collect_attached : m.collect.attached = m.attached := by
  unfold collect; split <;> rfl

/-- Collecting the rejections sends nothing. -/
theorem collect_sent : Sent m m.collect [] :=
  Sent.of_eq (by unfold collect; split <;> rfl) (by unfold collect; split <;> rfl)

end Collect

/-- A tick in four steps: collect the rejections, run the retry pass and push its retries, sweep,
and withdraw what the sweep removed. -/
theorem tick_fst (m : RoutingManager) (now : Nat) :
    (m.tick now).1 =
      let pass := m.table.retryPass m.settings.maxRetries
      let swept := pass.1.sweep now m.settings.sweepPercent
      let m₂ := pass.2.retry.foldl (fun m d => m.pushRoute d .install)
        { m.collect with table := pass.1 }
      swept.2.foldl (fun m mark => m.pushRoute mark.dest .withdraw)
        { m₂ with table := swept.1 } := by
  have h : (m.tick now).1 =
      let m₁ := m.collect
      let pass := m₁.table.retryPass m₁.settings.maxRetries
      let m₂ := pass.2.retry.foldl (fun m d => m.pushRoute d .install) { m₁ with table := pass.1 }
      let swept := m₂.table.sweep now m₂.settings.sweepPercent
      swept.2.foldl (fun m mark => m.pushRoute mark.dest .withdraw)
        { m₂ with table := swept.1 } := by
    unfold tick collect
    cases m.attached <;> rfl
  -- the retry pushes leave the table and the settings that the sweep reads
  rw [h]
  simp only [table_foldl_pushRoute, settings_foldl_pushRoute, collect_table, collect_settings]

/-! ## What each operation does to the table -/

section Apply

variable (m : RoutingManager)

/-- An insert of a valid destination records the request, and pushes the destination's routes
when the request made it pending. -/
theorem insert_of_isValid {now ttl : Nat} {d : IpAddress} (hd : d.isValid = true) :
    m.insert now d ttl =
      let r := m.table.request d (saturatingAdd (saturatingAdd now ttl) m.settings.extraTtl)
      if r.2.isPending then { m with table := r.1 }.pushRoute d .install
      else { m with table := r.1 } := by
  unfold insert
  rw [if_neg (by simp [hd])]
  dsimp only
  generalize m.table.request d _ = r
  obtain ⟨t', o⟩ := r
  cases o <;> rfl

/-- An insert of an invalid destination changes nothing. -/
theorem insert_of_not_isValid {now ttl : Nat} {d : IpAddress} (hd : d.isValid = false) :
    m.insert now d ttl = m := by
  simp [insert, hd]

/-- An insert records a request for a valid destination, with the saturated expiration, and leaves
the table of an invalid one alone. -/
theorem table_insert (now : Nat) (d : IpAddress) (ttl : Nat) :
    (m.insert now d ttl).table =
      if d.isValid then
        (m.table.request d (saturatingAdd (saturatingAdd now ttl) m.settings.extraTtl)).1
      else m.table := by
  cases hd : d.isValid
  · rw [insert_of_not_isValid m hd, if_neg Bool.false_ne_true]
  · rw [insert_of_isValid m hd, if_pos rfl]
    dsimp only
    split <;> simp

/-- An insert keeps the sink attached or detached. -/
theorem attached_insert (now : Nat) (d : IpAddress) (ttl : Nat) :
    (m.insert now d ttl).attached = m.attached := by
  cases hd : d.isValid
  · rw [insert_of_not_isValid m hd]
  · rw [insert_of_isValid m hd]
    dsimp only
    split <;> simp

/-- An insert keeps the settings. -/
theorem settings_insert (now : Nat) (d : IpAddress) (ttl : Nat) :
    (m.insert now d ttl).settings = m.settings := by
  cases hd : d.isValid
  · rw [insert_of_not_isValid m hd]
  · rw [insert_of_isValid m hd]
    dsimp only
    split <;> simp

/-- A tick's table is the retry pass's table, swept. -/
theorem table_tick (now : Nat) :
    (m.tick now).1.table =
      ((m.table.retryPass m.settings.maxRetries).1.sweep now m.settings.sweepPercent).1 := by
  simp [tick_fst]

/-- A tick keeps the sink attached or detached. -/
theorem attached_tick (now : Nat) : (m.tick now).1.attached = m.attached := by
  simp [tick_fst]

/-- A tick keeps the settings. -/
theorem settings_tick (now : Nat) : (m.tick now).1.settings = m.settings := by
  simp [tick_fst]

/-- Every operation keeps the table valid. -/
theorem valid_apply {m : RoutingManager} (hv : m.table.Valid) (o : ManagerOp) :
    (m.apply o).table.Valid := by
  cases o with
  | attach ifindex => exact hv
  | insert now d ttl =>
    rw [apply, table_insert]
    split
    · exact hv.request _ _
    · exact hv
  | confirmAdd now d => exact hv.confirmAdd _ _
  | confirmDel d => exact hv.confirmDel _
  | netdevUpdate lookup config => simpa [apply, netdevUpdate] using hv
  | tick now =>
    rw [apply, table_tick]
    exact (hv.retryPass _).sweep _ _

/-- The table stays valid along every run. -/
theorem valid_run {m : RoutingManager} (hv : m.table.Valid) (ops : List ManagerOp) :
    (m.run ops).table.Valid := by
  induction ops generalizing m with
  | nil => exact hv
  | cons o ops ih => exact ih (valid_apply hv o)

/-- The table of a manager started from nothing is valid after any run. -/
theorem valid_init_run (s : RouteSettings) (ops : List ManagerOp) :
    ((init s).run ops).table.Valid :=
  valid_run RouteTable.valid_empty ops

/-- Once attached, a sink stays attached. -/
theorem attached_apply {m : RoutingManager} (ha : m.attached = true) (o : ManagerOp) :
    (m.apply o).attached = true := by
  cases o with
  | attach ifindex => rfl
  | insert now d ttl => rw [apply, attached_insert, ha]
  | confirmAdd now d => exact ha
  | confirmDel d => exact ha
  | netdevUpdate lookup config => simpa [apply, netdevUpdate] using ha
  | tick now => rw [apply, attached_tick, ha]

/-- Once attached, a sink stays attached along every run. -/
theorem attached_run {m : RoutingManager} (ha : m.attached = true) (ops : List ManagerOp) :
    (m.run ops).attached = true := by
  induction ops generalizing m with
  | nil => exact ha
  | cons o ops ih => exact ih (attached_apply ha o)

/-- No operation changes the settings. -/
theorem settings_apply (o : ManagerOp) : (m.apply o).settings = m.settings := by
  cases o with
  | attach ifindex => rfl
  | insert now d ttl => exact settings_insert m now d ttl
  | confirmAdd now d => rfl
  | confirmDel d => rfl
  | netdevUpdate lookup config => simp [apply, netdevUpdate]
  | tick now => exact settings_tick m now

/-- No run changes the settings. -/
theorem settings_run (ops : List ManagerOp) : (m.run ops).settings = m.settings := by
  induction ops generalizing m with
  | nil => rfl
  | cons o ops ih => rw [run_cons, ih, settings_apply]

end Apply

/-! ## What each operation sends -/

/-- The routes of a push depend on the settings, the interface and its index only. -/
theorem routeGroup_congr {m₁ m₂ : RoutingManager} (hs : m₁.settings = m₂.settings)
    (hi : m₁.interface = m₂.interface) (hx : m₁.ifindex = m₂.ifindex) :
    m₁.routeGroup = m₂.routeGroup := by
  unfold routeGroup
  rw [hs, hi, hx]

section Sends

variable (m : RoutingManager)

/-- An insert pushes the routes of its destination when the request made it pending. -/
theorem insert_sent (now : Nat) (d : IpAddress) (ttl : Nat) :
    Sent m (m.insert now d ttl)
      (if m.attached ∧ d.isValid ∧
          (m.table.request d
            (saturatingAdd (saturatingAdd now ttl) m.settings.extraTtl)).2.isPending
        then m.routeGroup d .install else []) := by
  cases hd : d.isValid
  · rw [insert_of_not_isValid m hd]
    simpa using Sent.of_eq rfl rfl
  · rw [insert_of_isValid m hd]
    dsimp only
    generalize m.table.request d (saturatingAdd (saturatingAdd now ttl) m.settings.extraTtl) = r
    cases hp : r.2.isPending
    · simp only [Bool.false_eq_true, and_false, if_false]
      exact Sent.of_eq rfl rfl
    · -- the push starts from the counter and the sink of `m`
      simp only [and_true, if_true]
      exact pushRoute_sent { m with table := r.1 } d .install

/-- An interface update pushes the routes of every pending destination, under the new
interface. -/
theorem netdevUpdate_sent (lookup : Option UInt32) (config : InterfaceConfig) :
    Sent m (m.netdevUpdate lookup config)
      (if m.attached then
        m.table.pendingDestinations.flatMap fun d =>
          (m.netdevUpdate lookup config).routeGroup d .install
      else []) := by
  have h := foldl_pushRoute_sent m.table.pendingDestinations id .install
    { m with ifindex := lookup.getD m.ifindex, interface := config }
  have hg : (m.netdevUpdate lookup config).routeGroup =
      ({ m with ifindex := lookup.getD m.ifindex, interface := config } :
        RoutingManager).routeGroup :=
    routeGroup_congr (by simp [netdevUpdate]) (by simp [netdevUpdate]) (by simp [netdevUpdate])
  rw [hg]
  exact h

/-- A tick pushes the routes of the destinations its retry pass keeps pending, then withdraws
those of the marks its sweep removed. -/
theorem tick_sent (now : Nat) :
    let pass := m.table.retryPass m.settings.maxRetries
    let swept := pass.1.sweep now m.settings.sweepPercent
    Sent m (m.tick now).1
      (if m.attached then
        (pass.2.retry.flatMap fun d => m.routeGroup d .install) ++
          swept.2.flatMap fun r => m.routeGroup r.dest .withdraw
      else []) := by
  intro pass swept
  rw [tick_fst]
  dsimp only
  have h := (foldl_pushRoute_sent pass.2.retry id .install { m.collect with table := pass.1 }).trans
    (foldl_pushRoute_sent swept.2 ExpiryMark.dest .withdraw
      { pass.2.retry.foldl (fun m d => m.pushRoute d .install) { m.collect with table := pass.1 }
        with table := swept.1 })
  -- every push of the tick is under the settings, the interface and the index of `m`
  have hg₁ : ({ m.collect with table := pass.1 } : RoutingManager).routeGroup = m.routeGroup :=
    routeGroup_congr (by simp) (by simp) (by simp)
  have hg₂ : ({ pass.2.retry.foldl (fun m d => m.pushRoute d .install)
      { m.collect with table := pass.1 } with table := swept.1 } : RoutingManager).routeGroup =
      m.routeGroup :=
    routeGroup_congr (by simp) (by simp) (by simp)
  rw [hg₁, hg₂] at h
  refine ((collect_sent m).trans h).congr_routes ?_
  simp only [attached_foldl_pushRoute, collect_attached, id, List.nil_append]
  cases m.attached <;> simp

/-- A push keeps the route group of every destination. -/
theorem routeGroup_pushRoute (d : IpAddress) (op : RouteOp) :
    (m.pushRoute d op).routeGroup = m.routeGroup := by
  obtain ⟨seq, sent, h⟩ := pushRoute_frame m d op
  rw [h]
  exact routeGroup_congr rfl rfl rfl

/-- An insert keeps the route group of every destination. -/
theorem routeGroup_insert (now : Nat) (d : IpAddress) (ttl : Nat) :
    (m.insert now d ttl).routeGroup = m.routeGroup := by
  cases hd : d.isValid
  · rw [insert_of_not_isValid m hd]
  · rw [insert_of_isValid m hd]
    dsimp only
    split
    · exact routeGroup_pushRoute _ d .install
    · rfl

/-- A tick keeps the route group of every destination. -/
theorem routeGroup_tick (now : Nat) : (m.tick now).1.routeGroup = m.routeGroup :=
  routeGroup_congr (by simp [tick_fst]) (by simp [tick_fst]) (by simp [tick_fst])

end Sends

/-- What one operation sends, under the settings and the interface the manager has after it: the
route groups of a list of pushes, one after the other, each complete and numbered on from the
counter. A destination is installed only if it is pending after the operation, and withdrawn
only by a tick that found it due and forgot it. -/
theorem apply_sent {m : RoutingManager} (hv : m.table.Valid) (o : ManagerOp) :
    ∃ pushes : List (IpAddress × RouteOp),
      Sent m (m.apply o)
        (if m.attached then pushes.flatMap fun p => (m.apply o).routeGroup p.1 p.2 else []) ∧
      (∀ d, (d, RouteOp.install) ∈ pushes → ((m.apply o).table.pendingOf d).isSome) ∧
      (∀ d, (d, RouteOp.withdraw) ∈ pushes → ∃ now e, o = .tick now ∧
        m.table.expirationOf d = some e ∧ e ≤ now ∧ (m.apply o).table.expirationOf d = none) := by
  cases o with
  | attach ifindex =>
    refine ⟨[], ?_, by simp, by simp⟩
    exact (Sent.of_eq rfl rfl : Sent m (m.apply (.attach ifindex)) []).congr_routes (by simp)
  | insert now d ttl =>
    -- one install, when the request made `d` pending
    let r := m.table.request d (saturatingAdd (saturatingAdd now ttl) m.settings.extraTtl)
    refine ⟨if d.isValid ∧ r.2.isPending then [(d, .install)] else [], ?_, ?_, ?_⟩
    · refine (insert_sent m now d ttl).congr_routes ?_
      rw [apply, routeGroup_insert]
      by_cases h : d.isValid ∧ r.2.isPending <;> cases m.attached <;> simp [h, r]
    · intro x hx
      by_cases h : d.isValid ∧ r.2.isPending
      · simp only [h, and_self, if_true, List.mem_singleton, Prod.mk.injEq] at hx
        obtain ⟨rfl, -⟩ := hx
        rw [apply, table_insert, if_pos h.1]
        exact RouteTable.pendingOf_request_of_isPending h.2
      · simp [h] at hx
    · intro x hx
      by_cases h : d.isValid ∧ r.2.isPending <;> simp [h] at hx
  | confirmAdd now d =>
    refine ⟨[], ?_, by simp, by simp⟩
    exact (Sent.of_eq rfl rfl : Sent m (m.apply (.confirmAdd now d)) []).congr_routes (by simp)
  | confirmDel d =>
    refine ⟨[], ?_, by simp, by simp⟩
    exact (Sent.of_eq rfl rfl : Sent m (m.apply (.confirmDel d)) []).congr_routes (by simp)
  | netdevUpdate lookup config =>
    -- every pending destination is installed again
    refine ⟨m.table.pendingDestinations.map (·, .install), ?_, ?_, ?_⟩
    · refine (netdevUpdate_sent m lookup config).congr_routes ?_
      simp [apply, List.flatMap_map]
    · intro x hx
      simp only [List.mem_map, Prod.mk.injEq] at hx
      obtain ⟨x, hx, rfl, -⟩ := hx
      simpa [apply, netdevUpdate] using hv.pendingOf_of_mem_pendingDestinations hx
    · intro x hx
      simp at hx
  | tick now =>
    -- the retries are installed again, then the removed marks withdrawn
    let pass := m.table.retryPass m.settings.maxRetries
    let swept := pass.1.sweep now m.settings.sweepPercent
    have hvp : pass.1.Valid := hv.retryPass _
    refine ⟨pass.2.retry.map (·, .install) ++ swept.2.map fun r => (r.dest, .withdraw), ?_, ?_, ?_⟩
    · refine (tick_sent m now).congr_routes ?_
      rw [apply, routeGroup_tick]
      simp [List.flatMap_map, pass, swept]
    · intro x hx
      simp only [List.mem_append, List.mem_map, Prod.mk.injEq, reduceCtorEq, and_false,
        exists_false, or_false] at hx
      obtain ⟨x, hx, rfl, -⟩ := hx
      rw [apply, table_tick, RouteTable.pendingOf_sweep]
      exact hv.pendingOf_retryPass_of_mem_retry hx
    · intro x hx
      simp only [List.mem_append, List.mem_map, Prod.mk.injEq, reduceCtorEq, and_false,
        exists_false, false_or] at hx
      obtain ⟨r, hr, rfl, -⟩ := hx
      refine ⟨now, r.expiration, rfl, ?_, RouteTable.expiration_le_of_mem_sweep hr, ?_⟩
      · rw [← hv.expirationOf_retryPass]
        exact hvp.expirationOf_of_mem_sweep hr
      · rw [apply, table_tick, hvp.expirationOf_sweep, if_pos ⟨r, hr, rfl⟩]

/-- Every message an operation sends is a request for a route of one of its pushes, with the
push's operation and destination. -/
theorem apply_messages {m : RoutingManager} (hv : m.table.Valid) (o : ManagerOp) :
    ∃ pushes : List (IpAddress × RouteOp), ∃ msgs,
      (m.apply o).sink.sent = m.sink.sent ++ msgs ∧
      (∀ msg ∈ msgs, ∀ op kind d, IsRouteMessage op kind d msg → (d, op) ∈ pushes) ∧
      (∀ d, (d, RouteOp.install) ∈ pushes → ((m.apply o).table.pendingOf d).isSome) ∧
      (∀ d, (d, RouteOp.withdraw) ∈ pushes → ∃ now e, o = .tick now ∧
        m.table.expirationOf d = some e ∧ e ≤ now ∧ (m.apply o).table.expirationOf d = none) := by
  obtain ⟨pushes, ⟨msgs, hn, hs⟩, hins, hwd⟩ := apply_sent hv o
  refine ⟨pushes, msgs, hs, fun msg hm op kind d hmsg => ?_, hins, hwd⟩
  -- the message encodes a route of some push, and the octets tell its operation and destination
  obtain ⟨s, hs', k, hk⟩ := hn.exists_route hm
  split at hs'
  · obtain ⟨p, hp, hsp⟩ := List.mem_flatMap.1 hs'
    obtain ⟨hop, hdest⟩ := op_dest_of_mem_routeGroup hsp
    obtain ⟨hop', -, hdest'⟩ := hmsg.of_encodeRoute hk
    have hpd : p = (d, op) := by
      rw [← hdest', ← hop', hop, hdest]
    exact hpd ▸ hp
  · simp at hs'

/-- The run lemma for what a run sends. Let `I` hold of a manager and the operations still to
come. If each operation keeps `I` and sends only messages with property `P`, then the whole run
ends in `I` and sends only messages with property `P`. -/
theorem run_sends_only (P : List UInt8 → Prop) (I : RoutingManager → List ManagerOp → Prop)
    (hstep : ∀ m o rest, I m (o :: rest) → I (m.apply o) rest ∧
      ∃ msgs, (m.apply o).sink.sent = m.sink.sent ++ msgs ∧ ∀ msg ∈ msgs, P msg)
    {m : RoutingManager} (ops : List ManagerOp) (hI : I m ops) :
    I (m.run ops) [] ∧
      ∃ msgs, (m.run ops).sink.sent = m.sink.sent ++ msgs ∧ ∀ msg ∈ msgs, P msg := by
  induction ops generalizing m with
  | nil => exact ⟨hI, [], by simp, by simp⟩
  | cons o ops ih =>
    obtain ⟨hI₁, msgs₁, hs₁, hP₁⟩ := hstep m o ops hI
    obtain ⟨hI₂, msgs₂, hs₂, hP₂⟩ := ih hI₁
    refine ⟨hI₂, msgs₁ ++ msgs₂, by rw [run_cons, hs₂, hs₁, List.append_assoc], ?_⟩
    intro msg hm
    rcases List.mem_append.1 hm with hm | hm
    · exact hP₁ msg hm
    · exact hP₂ msg hm

end RoutingManager

end RouteLease
