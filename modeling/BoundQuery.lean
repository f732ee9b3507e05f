import BoundQuery.Session
import BoundQuery.Proofs.MarkerSearch
import BoundQuery.Proofs.Skeleton
import BoundQuery.Proofs.BindingOrder
import BoundQuery.Proofs.LimitReset
import BoundQuery.Proofs.CloseErrors
import BoundQuery.Proofs.OptionPrecedence
import BoundQuery.Proofs.NestedQuery
import BoundQuery.Proofs.QueryReport
import BoundQuery.Proofs.LifeCycle
import BoundQuery.Proofs.RowDelivery
import BoundQuery.Proofs.ListReading
import BoundQuery.Proofs.CursorRelease
import BoundQuery.Proofs.HealthReport
import BoundQuery.Proofs.LimitTransparency
import BoundQuery.Proofs.RetrievalAgreement
import BoundQuery.Proofs.WrittenNumbers
import BoundQuery.Proofs.IntegerTruncation
import BoundQuery.Proofs.ContainerItems
import BoundQuery.Proofs.OptionResolution
import BoundQuery.Proofs.LimitInForce
import BoundQuery.Proofs.WholeNumbers
