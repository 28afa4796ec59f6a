import GizmoSqlOdbc.Flight
import GizmoSqlOdbc.AuthSelection
import GizmoSqlOdbc.AuthMethods
import GizmoSqlOdbc.OAuthProtocol
import GizmoSqlOdbc.AuthenticateSemantics
import GizmoSqlOdbc.BrowserCommand
import GizmoSqlOdbc.SqlText
import GizmoSqlOdbc.WideOutput
import GizmoSqlOdbc.FunctionBitmap
import GizmoSqlOdbc.NarrowOutput
import GizmoSqlOdbc.HandleRegistry
import GizmoSqlOdbc.EnvironmentAttributes
import GizmoSqlOdbc.Descriptors
import GizmoSqlOdbc.EntryPoints
