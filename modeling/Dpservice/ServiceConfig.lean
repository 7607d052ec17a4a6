import Dpservice.Service
import Dpservice.VnfTables

/-!
# The configuration of a running service

Packets and timers read the configuration, only requests change it (`step_config`). What every request keeps therefore
holds in every state of a run (`config_run`): the port records are in order, and every VNF but a load balancer belongs
to a port that exists.
-/

namespace Dpservice

section Config

variable {cf : Conf} {e : Env} {c : Config} {s s' : Service} {ev : Event} {es : List Event} {l : LbState} {r : Request}
  {o : Outcome}

/-- A step keeps the configuration, or handles a request. -/
theorem step_config (h : step cf s ev = some s') :
    s'.cfg = s.cfg ∨ ∃ r e order o, ev = .request r e order ∧ dpProcessRequest cf e s.cfg s.dpl.lb r = some o ∧
      s'.cfg = o.cfg := by
  cases step_cases h with
  | rx | walk | flowAging => exact .inl rfl
  | request _ ho => exact .inr ⟨_, _, _, _, rfl, ho, rfl⟩

/-- **What every request keeps holds in every run.** -/
theorem config_run {I : Config → Prop} (hinit : I (Config.init cf))
    (hreq : ∀ {c l e r o}, I c → dpProcessRequest cf e c l r = some o → I o.cfg)
    (h : run (step cf) (Service.init cf) es = some s) : I s.cfg := by
  refine run_invariant (I := fun s => I s.cfg) (P := fun _ _ => True) ?_ hinit (along_true _ _) h
  intro s ev s' hs _ hstep
  obtain heq | ⟨r, e, order, o, -, ho, heq⟩ := step_config hstep
  · exact heq ▸ hs
  · exact heq ▸ hreq hs ho

theorem portsOk_service (h : run (step cf) (Service.init cf) es = some s) : PortsOk cf s.cfg :=
  config_run (.init cf) (fun hc ho => hc.request ho) h

/-- Every VNF but a load balancer belongs to a port. -/
def VnfPorts (cf : Conf) (c : Config) : Prop :=
  ∀ ul v, c.vnf.handleTbl ul = some v → v.type ≠ .lb → cf.hasPort v.portId = true

/-- The VNF that a request creates belongs to a port. -/
theorem requestVnf_port {v : Vnf} (hc : PortsOk cf c) (h : requestVnf cf e c r = some v) (hv : v.type ≠ .lb) :
    cf.hasPort v.portId = true := by
  obtain ⟨-, -, name, hp⟩ | ⟨-, -, -, id, hp, -⟩ | ⟨-, hty, -⟩ := requestVnf_owner h
  · exact dpGetPortByName_hasPort hp
  · exact (hc.ready (hc.mapped.mp hp).1).2.2
  · exact absurd hty hv

theorem VnfPorts.request (hc : PortsOk cf c) (hv : VnfPorts cf c) (ho : dpProcessRequest cf e c l r = some o) :
    VnfPorts cf o.cfg := fun ul v hul hty =>
  ((dpProcessRequest_vnf hc ho).handle_old hul).elim (hv ul v · hty) (requestVnf_port hc · hty)

theorem vnfPorts_service (h : run (step cf) (Service.init cf) es = some s) : VnfPorts cf s.cfg :=
  (config_run (I := fun c => PortsOk cf c ∧ VnfPorts cf c) ⟨.init cf, fun _ _ h => by cases h⟩
    (fun hc ho => ⟨hc.1.request ho, hc.2.request hc.1 ho⟩) h).2

end Config

end Dpservice
