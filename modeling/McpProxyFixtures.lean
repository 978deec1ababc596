import McpProxyFixtures.Python.Str
import McpProxyFixtures.Python.UrlParse
import McpProxyFixtures.Python.Json
import McpProxyFixtures.OAuth.Server
import McpProxyFixtures.OAuth.Frame
import McpProxyFixtures.OAuth.Redirect
import McpProxyFixtures.OAuth.Concurrent
import McpProxyFixtures.OAuth.Registration
import McpProxyFixtures.Registry.Server
import McpProxyFixtures.Registry.Pagination
import McpProxyFixtures.Registry.History
import McpProxyFixtures.Python.Int
import McpProxyFixtures.Servers.Morse
import McpProxyFixtures.Servers.Color
import McpProxyFixtures.Servers.Numbers
import McpProxyFixtures.Servers.Weather
import McpProxyFixtures.Servers.Restaurant
import McpProxyFixtures.Servers.Catalogs
import McpProxyFixtures.Servers.MorseTiming
