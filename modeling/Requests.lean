import Requests.Basic
import Requests.Lookup
import Requests.Selection
import Requests.SelectionSpec
import Requests.System
import Requests.Exclusion
import Requests.Serial
import Requests.Growth
import Requests.Provenance
import Requests.Ropen
