/-
This file keeps the configuration in effect while others replace it.
-/

import DocumentQuery.Service.Configuration

namespace DocumentQuery

/-- The number tells two installations of equal configurations apart. -/
structure Installed where
  number : Nat
  configuration : Configuration
  deriving DecidableEq

/-- An installation numbers configurations in the order of their arrival. -/
structure Installation where
  current : Installed

namespace Installation

def start (configuration : Configuration) : Installation :=
  ⟨⟨0, configuration⟩⟩

/-- The result is the configuration that was in effect before. -/
def replace (installation : Installation) (configuration : Configuration) :
    Installed × Installation :=
  (installation.current, ⟨⟨installation.current.number + 1, configuration⟩⟩)

end Installation

end DocumentQuery
