import FortranBindings.Body
import FortranBindings.Call
