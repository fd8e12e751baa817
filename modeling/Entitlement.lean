import Entitlement.Http.Router
import Entitlement.Main
import Entitlement.Proofs.Assessment.Dependence
import Entitlement.Proofs.Assessment.Descriptions
import Entitlement.Proofs.Assessment.Explanation
import Entitlement.Proofs.Assessment.Monotone
import Entitlement.Proofs.Assessment.Order
import Entitlement.Proofs.Assessment.Score
import Entitlement.Proofs.Assessment.Specification
import Entitlement.Proofs.Assessment.Splitting
import Entitlement.Proofs.Calendar.Age
import Entitlement.Proofs.Calendar.Birth
import Entitlement.Proofs.Catalog
import Entitlement.Proofs.Check.BareNumber
import Entitlement.Proofs.Check.Duality
import Entitlement.Proofs.Check.Includes
import Entitlement.Proofs.Check.Range
import Entitlement.Proofs.Check.StatedAge
import Entitlement.Proofs.Check.Targets
import Entitlement.Proofs.Config.Settings
import Entitlement.Proofs.Population
import Entitlement.Proofs.Scheme
import Entitlement.Proofs.Service.Interleaving
import Entitlement.Proofs.Service.Recorded
import Entitlement.Proofs.Service.Results
import Entitlement.Proofs.Service.Seeded
import Entitlement.Proofs.Service.Window
import Entitlement.Proofs.StoredValue
import Entitlement.Proofs.Validation.Options
import Entitlement.Proofs.Validation.Places
import Entitlement.Proofs.Validation.Rows
import Entitlement.Proofs.Validation.Satisfiable
